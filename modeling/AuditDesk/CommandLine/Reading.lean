import AuditDesk.CommandLine.Grammar

/-!
Reading a command line by a grammar. Words are taken from the left; values are looked at as soon as what
they belong to is complete, so that the first fault is the one that is told.
-/
namespace AuditDesk.CommandLine

/-- Why a command line is not carried out. -/
inductive UsageError where
  | unknownArgument (word : String)
  | unknownSubcommand (word : String)
  | missingSubcommand
  | missingArguments (labels : List String)
  /-- A value is missing, or is empty where it must not be. -/
  | noValue (label : String)
  /-- A flag was given a value. -/
  | unneededValue (label value : String)
  | tooFewValues (label : String)
  | badName (label value : String) (e : NameError)
  | badNumber (label value : String) (e : NumberError)
  | repeated (label : String)
  /-- Help was asked for. -/
  | help
  | version
  /-- Nothing was given where a subcommand is needed. -/
  | bare
deriving DecidableEq

namespace UsageError

/-- Information that was asked for is no failure. -/
def status : UsageError → Nat
  | .help | .version => 0
  | _ => 2

end UsageError

/-- The options and arguments given for one command, with their values, under their labels. -/
abbrev Given := List (String × List Argument)

/-- How far the reading of one command has come. -/
structure Progress where
  given : Given
  /-- What values are being collected for, and the words so far. -/
  pending : Option (Slot × List String)
  /-- The next word is a value, unless it looks like an option. -/
  awaiting : Bool
  /-- The number of the next positional argument. -/
  position : Nat
  /-- Two dashes were seen: from here on nothing is an option. -/
  literal : Bool

namespace Progress

def start : Progress := ⟨[], none, false, 0, false⟩

def has (p : Progress) (label : String) : Bool := (p.given.lookup label).isSome

/-- Reads the words given for a slot. -/
def readValues (slot : Slot) (words : List String) : Except UsageError (List Argument) :=
  words.mapM fun word => (slot.kind.read word).mapError fun
    | .emptyPath => .noValue slot.label
    | .name e => .badName slot.label word e
    | .number e => .badNumber slot.label word e

/-- Notes the words given for a slot. -/
def record (p : Progress) (slot : Slot) (words : List String) : Except UsageError Progress := do
  if words.isEmpty then throw (.noValue slot.label)
  if slot.many then
    if words.length < 2 then throw (.tooFewValues slot.label)
    let values := (p.given.lookup slot.label).getD [] ++ (← readValues slot words)
    return { p with given := (slot.label, values) :: p.given }
  else
    if p.has slot.label then throw (.repeated slot.label)
    return { p with given := (slot.label, ← readValues slot words) :: p.given }

/-- Notes what is pending. -/
def settle (p : Progress) : Except UsageError Progress :=
  match p.pending with
  | none => .ok { p with awaiting := false }
  | some (slot, words) => { p with pending := none, awaiting := false }.record slot words

/-- Takes an option that has come without a value of its own. -/
def takeOption (p : Progress) (o : CommandOption) : Except UsageError Progress := do
  let p ← p.settle
  match o.role with
  | .flag label =>
      if p.has label then throw (.repeated label)
      return { p with given := (label, []) :: p.given }
  | .valued slot => return { p with pending := some (slot, []), awaiting := true }
  | .help => throw .help
  | .version => throw .version

/-- Takes an option with the value that is attached to it. -/
def takeAttached (p : Progress) (o : CommandOption) (value : String) : Except UsageError Progress := do
  match o.role with
  | .valued slot => (← p.settle).record slot [value]
  | role => throw (.unneededValue role.label value)

/-- Takes letters that stand together after one dash; what follows an option with a value is its value.
-/
def takeLetters (g : Grammar) : List Char → Progress → Except UsageError Progress
  | [], p => .ok p
  | c :: rest, p =>
      match g.short? c with
      | none => .error (.unknownArgument (String.ofList ['-', c]))
      | some o =>
          match o.role, rest with
          | .valued _, '=' :: value => p.takeAttached o (String.ofList value)
          | .valued _, _ :: _ => p.takeAttached o (String.ofList rest)
          | _, _ => do takeLetters g rest (← p.takeOption o)

/-- Takes what stands after two dashes. -/
def takeLong (g : Grammar) (body : List Char) (p : Progress) : Except UsageError Progress :=
  let name := String.ofList (body.takeWhile (· ≠ '='))
  match g.long? name, body.dropWhile (· ≠ '=') with
  | none, _ => .error (.unknownArgument ("--" ++ name))
  | some o, [] => p.takeOption o
  | some o, _ :: value => p.takeAttached o (String.ofList value)

/-- What is wrong with a word for which there is no place. -/
def stray (g : Grammar) (p : Progress) (word : String) : UsageError :=
  if g.subcommands.isEmpty || (p.literal && g.isSubcommand word) then .unknownArgument word
  else .unknownSubcommand word

def takePositional (g : Grammar) (word : String) (p : Progress) : Except UsageError Progress := do
  match g.positionals[p.position]? with
  | none => throw (stray g p word)
  | some slot =>
      match p.pending with
      | some (collecting, words) =>
          if slot.many && collecting = slot then
            return { p with pending := some (slot, words ++ [word]) }
      | none => pure ()
      let p ← p.settle
      return { p with
        pending := some (slot, [word])
        position := if slot.many then p.position else p.position + 1 }

/-- Takes a word that is not an option. -/
def takeValue (g : Grammar) (word : String) (p : Progress) : Except UsageError Progress :=
  match p.awaiting, p.pending with
  | true, some (slot, words) =>
      .ok { p with pending := some (slot, words ++ [word]), awaiting := false }
  | _, _ => p.takePositional g word

def take (g : Grammar) (word : String) (p : Progress) : Except UsageError Progress :=
  if p.literal then p.takePositional g word
  else
    match word.toList with
    | ['-', '-'] => .ok { p with literal := true }
    | '-' :: '-' :: body => takeLong g body p
    | ['-'] => p.takeValue g word
    | '-' :: letters => takeLetters g letters p
    | _ => p.takeValue g word

/-- Whether the next word may name a subcommand. -/
def allowsSubcommand (p : Progress) : Bool :=
  !p.literal && !p.awaiting && !(p.pending.any fun pending => pending.1.many)

/-- Ends the reading of a command: everything that has to be given must be there. -/
def finish (g : Grammar) (hasSubcommand : Bool) (p : Progress) : Except UsageError Given := do
  let p ← p.settle
  if g.needsSubcommand && !hasSubcommand then
    throw (if p.given.isEmpty then .bare else .missingSubcommand)
  match g.obligations.filter fun label => !p.has label with
  | [] => return p.given
  | missing => throw (.missingArguments missing)

end Progress

/-- The commands named on a command line, the outermost first, with what was given for each. -/
abbrev Reading := List (String × Given)

namespace Reading

/-- What comes of asking for help with a subcommand. -/
def explain (g : Grammar) : List String → UsageError
  | [] => .help
  | word :: rest =>
      match g.subcommand? word with
      | some sub => explain sub rest
      | none =>
          match g.isSubcommand word, rest with
          | true, [] => .help
          | true, next :: _ => .unknownSubcommand next
          | false, _ => .unknownSubcommand word

/-- Reads the words of a command. Faults of a subcommand are told before those of the commands around it
that have not come up yet. -/
def ofWords (g : Grammar) (name : String) (p : Progress) : List String → Except UsageError Reading
  | [] => do return [(name, ← p.finish g false)]
  | word :: rest =>
      if p.allowsSubcommand && g.isSubcommand word then
        match g.subcommand? word with
        | none => .error (explain g rest)
        | some sub => do
            let inner ← ofWords sub word .start rest
            return (name, ← p.finish g true) :: inner
      else do ofWords g name (← p.take g word) rest

/-- What was given under a label; of commands inside one another the innermost counts. -/
def lookup (r : Reading) (label : String) : Option (List Argument) :=
  r.reverse.findSome? fun command => command.2.lookup label

def has (r : Reading) (label : String) : Bool := (r.lookup label).isSome

/-- The names of the subcommands that were given. -/
def path (r : Reading) : List String := (r.map Prod.fst).drop 1

end Reading

end AuditDesk.CommandLine
