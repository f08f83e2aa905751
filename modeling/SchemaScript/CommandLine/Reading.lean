import SchemaScript.CommandLine.Refusal
import SchemaScript.CommandLine.Request
import SchemaScript.Text.Similar

/-!
# CommandLine.Reading: from words to a request

The words of a command line are read from left to right, first at the interface of the tool and, behind the name of a command, at
that command's. A flag that waits for its value takes the next word that is not a flag itself. Its value is looked at only when
the next flag is read or the words of its interface are at their end, so a fault that stands before may be told after one that
stands behind.
-/

namespace SchemaScript.CommandLine

/-- How far the words of an interface were read. -/
structure Reading where
  given : Given
  /-- The flag whose value was not looked at yet, with the value if that was read. -/
  pending? : Option (Flag × Option String)
  /-- Whether `--` was read: the words behind it are no flags and no commands. -/
  literal : Bool
  deriving DecidableEq, Repr

namespace Reading

/-- Nothing was read. -/
def start : Reading := ⟨[], none, false⟩

/-- Whether a flag waits for its value. -/
def waits (r : Reading) : Bool :=
  match r.pending? with
  | some (_, none) => true
  | _ => false

/-- The flags given so far. A flag that was given twice does not count, whatever its values. -/
def flags (r : Reading) : List Flag :=
  let known := r.given.map (·.1)
  match r.pending? with
  | some (f, some _) => if r.given.holds f then known.filter (·.name ≠ f.name) else known ++ [f]
  | _ => known

end Reading

namespace Interface

variable (i : Interface)

/-- A fault at an interface, told with its general usage. -/
def fault {α : Type} (f : Fault) : Except Refusal α := .error (.fault f (some i.usage))

/-- A flag with its value, in addition to what was given before. -/
def give (r : Reading) (f : Flag) (value : String) : Except Refusal Reading :=
  if r.given.holds f then i.fault (.repeated f)
  else match f.kind, value with
    | .value _ true, "" => .error (.fault (.noValue f) none)
    | _, _ => .ok { r with given := r.given ++ [(f, value)] }

/-- Look at the value of the pending flag. -/
def settle (r : Reading) : Except Refusal Reading :=
  match r.pending? with
  | none => .ok r
  | some (f, none) => .error (.fault (.noValue f) none)
  | some (f, some value) => i.give { r with pending? := none } f value

/-- The flags that an interface can do without. -/
def optional (flags : List Flag) : List Flag := flags.filter (!·.isRequired)

/-- Flags with one more, unless it is among them. -/
def withFlag (f : Flag) (flags : List Flag) : List Flag := if f ∈ flags then flags else flags ++ [f]

/-- Take a flag, with the value that is attached to it if there is one. -/
def take (r : Reading) (f : Flag) (attached? : Option String) : Except Refusal Reading :=
  match f.kind, attached? with
  | .value .., some value => do i.give (← i.settle r) f value
  | .value .., none => do return { ← i.settle r with pending? := some (f, none) }
  | _, some value => .error (.fault (.needlessValue f value) (some (i.usageOf (withFlag f (optional (r.given.map (·.1)))))))
  | .switch, none => do i.give (← i.settle r) f ""
  | .help, none => do
    let _ ← i.settle r
    throw (.help i.help)
  | .version, none => do
    let _ ← i.settle r
    throw .version

/-- The flag of this interface that may be meant by a name. -/
def similarFlag? (name : String) : Option Flag :=
  (Text.similarWords name (i.flags.map (·.name))).getLast?.bind i.flag?

end Interface

/-- The flag of a command among the words that follow that may be meant by a name. -/
def Tip.elsewhere? (commands : List Subcommand) (name : String) (rest : List String) : Option Tip :=
  rest.findSome? fun word => do
    let c ← commands.find? (·.name = word)
    let f ← c.interface.similarFlag? name
    return .flagOf word f.name

namespace Interface

variable (i : Interface)

/-- The fault of a flag whose name is not known; `rest` are the words that follow. -/
def unknownFlag (r : Reading) (name : String) (rest : List String) : Refusal :=
  let similar? := i.similarFlag? name
  let tip? := match similar? with
    | some f => some (.flag f.name)
    | none => Tip.elsewhere? i.commands name rest
  let used := similar?.elim r.flags (withFlag · r.flags)
  .fault (.unexpected ("--" ++ name) tip?) (some (i.usageOf (optional used)))

/-- Take `--name` or `--name=value`, without its dashes. -/
def takeLong (r : Reading) (word : List Char) (rest : List String) : Except Refusal Reading :=
  let name := String.ofList (word.takeWhile (· ≠ '='))
  match i.flag? name with
  | none => .error (i.unknownFlag r name rest)
  | some f =>
    match word.dropWhile (· ≠ '=') with
    | [] => i.take r f none
    | _ :: value => i.take r f (some (String.ofList value))

/-- The value that stands in the same word behind a letter; an equals sign before it is no part of it. -/
def attached? : List Char → Option String
  | [] => none
  | '=' :: value => some (String.ofList value)
  | value => some (String.ofList value)

/-- Take letters of flags that stand behind one dash; the first one with a value ends them. -/
def takeLetters (r : Reading) : List Char → Except Refusal Reading
  | [] => .ok r
  | letter :: rest =>
    match i.flagOfLetter? letter with
    | none => i.fault (.unexpected ("-" ++ letter.toString) none)
    | some f =>
      match f.kind with
      | .value .. => i.take r f (attached? rest)
      | _ => do takeLetters (← i.take r f none) rest

/-- The fault of a word that is no flag, no value and no command. -/
def strayWord (r : Reading) (word : String) : Fault :=
  if i.commands.isEmpty then .unexpected word none
  else if r.literal && (i.command? word).isSome then .unexpected word (some (.withoutDashes word))
  else .unknownCommand word (Text.similarWords word (i.commands.map Subcommand.name))

/-- Read the words of an interface, up to the name of a subcommand if there is one: that subcommand and the words behind it. -/
def read (r : Reading) : List String → Except Refusal (Reading × Option (Subcommand × List String))
  | [] => .ok (r, none)
  | word :: rest =>
    if r.literal then i.fault (i.strayWord r word)
    else match if r.waits then none else i.command? word with
      | some c => .ok (r, some (c, rest))
      | none =>
        match word.toList with
        | ['-', '-'] => read { r with literal := true } rest
        | '-' :: '-' :: long => do read (← i.takeLong r long rest) rest
        | '-' :: letter :: letters => do read (← i.takeLetters r (letter :: letters)) rest
        | _ =>
          match r.pending? with
          | some (f, none) => read { r with pending? := some (f, some word) } rest
          | _ => i.fault (i.strayWord r word)

end Interface

/-- The job of a command and the words behind its name. -/
def Command.read (c : Command) (words : List String) : Except Refusal Job := do
  let i := c.interface
  let (r, _) ← i.read .start words
  let given := (← i.settle r).given
  match c.job? given with
  | some job => return job
  | none => i.fault (.missing (i.required.filter fun f => !given.holds f))

/-- The help that the words behind the word `help` ask for. -/
def helpOn (i : Interface) : List String → Refusal
  | [] => .help i.help
  | word :: rest =>
    match i.command? word with
    | none => .fault (.unknownCommand word []) (some i.usage)
    | some c =>
      match rest with
      | [] => .help c.interface.help
      | next :: _ => .fault (.unknownCommand next []) (some c.interface.usage)

/-- The request of a command line, given the value of the environment variable if that is set. -/
def Request.ofWords (environment? : Option String) (words : List String) : Except Refusal Request := do
  let i := tool environment?
  match ← i.read .start words with
  | (_, some (.help, rest)) => throw (helpOn i rest)
  | (r, some (.run c, rest)) =>
    let job ← c.read rest
    return job.request (← i.settle r).given environment?
  | (r, none) =>
    let given := (← i.settle r).given
    if given.isEmpty && environment?.isNone then throw (.nothingAsked i.help) else i.fault .noCommand

end SchemaScript.CommandLine
