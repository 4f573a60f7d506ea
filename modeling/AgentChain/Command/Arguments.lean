import AgentChain.Number.Whole
import AgentChain.Text.Quoted

/-!
# The arguments of the command

The command takes one chain expression and four options. An option may be shortened as long as it is
told apart from the others, and its value follows it or is attached by an equals sign. After two
dashes by themselves nothing is an option; two dashes attached to an option leave it without a
value.

Arguments are told apart first, then used up from left to right, and what is left over is reported
last.
-/

namespace AgentChain.Command

/-- The options of the command. -/
inductive Opt where
  | help
  | root
  | budget
  | rounds
deriving DecidableEq, Repr

namespace Opt

/-- The spellings of all options, in the order of their definition. -/
def spellings : List (String × Opt) :=
  [("-h", help), ("--help", help), ("--root", root), ("--budget", budget), ("--rounds", rounds)]

/-- The name of an option in messages. -/
def name : Opt → String
  | help => "-h/--help"
  | root => "--root"
  | budget => "--budget"
  | rounds => "--rounds"

end Opt

/-- What can be wrong with the arguments. -/
inductive UsageError where
  | ambiguous (given : String) (candidates : List String)
  | valueExpected (option : Opt)
  | valueIgnored (option : Opt) (value : String)
  | notWhole (option : Opt) (value : String)
  | expressionMissing
  | leftOver (arguments : List String)
deriving DecidableEq, Repr

/-- What is said of an error. -/
def UsageError.message : UsageError → String
  | ambiguous given candidates =>
    "ambiguous option: " ++ given ++ " could match " ++ ", ".intercalate candidates
  | valueExpected option => "argument " ++ option.name ++ ": expected one argument"
  | valueIgnored option value =>
    "argument " ++ option.name ++ ": ignored explicit argument " ++ Text.quoted value
  | notWhole option value =>
    "argument " ++ option.name ++ ": invalid int value: " ++ Text.quoted value
  | expressionMissing => "the following arguments are required: expression"
  | leftOver arguments => "unrecognized arguments: " ++ " ".intercalate arguments

/-! ## Telling arguments apart -/

/-- What an argument is by itself. A value may be attached to an option after an equals sign, or
directly after its letter. -/
inductive Token where
  | plain (s : String)
  | option (o : Opt) (spelling : String) (attached : Option String)
  /-- Looks like an option and is none. -/
  | unknown (s : String)
  /-- Two dashes by themselves. -/
  | dashes
deriving DecidableEq, Repr

/-- The text before the first equals sign, and the text after it. -/
def splitEquals (s : String) : String × Option String :=
  let (left, right) := Number.splitFirst (· == '=') s.toList
  (String.ofList left, right.map String.ofList)

/-- The text is a negative number: digits, or digits around a point. One line break may follow. -/
def isNegativeNumber (s : String) : Bool :=
  match s.toList with
  | '-' :: cs =>
    let cs := if cs.getLast? = some '\n' then cs.dropLast else cs
    let isDigit c := (Text.digitValue? c).isSome
    let (whole, fraction) := Number.splitFirst (· == '.') cs
    whole.all isDigit &&
      match fraction with
      | none => !whole.isEmpty
      | some ds => !ds.isEmpty && ds.all isDigit
  | _ => false

/-- The options that an argument may be short for. -/
def candidates (s : String) : List Token :=
  match s.toList with
  | '-' :: '-' :: _ =>
    let (given, value) := splitEquals s
    (Opt.spellings.filter fun o => given.isPrefixOf o.1).map fun o => .option o.2 o.1 value
  | '-' :: c :: rest =>
    if c = 'h' then [.option .help "-h" (some (String.ofList rest))] else []
  | _ => []

/-- What an argument before any two dashes is. -/
def Token.of (s : String) : Except UsageError Token :=
  if !"-".isPrefixOf s || s = "-" then .ok (.plain s)
  else
    match Opt.spellings.lookup s with
    | some o => .ok (.option o s none)
    | none =>
      let (given, value) := splitEquals s
      match value, Opt.spellings.lookup given with
      | some v, some o => .ok (.option o given (some v))
      | _, _ =>
        match candidates s with
        | [] => .ok (if isNegativeNumber s || ' ' ∈ s.toList then .plain s else .unknown s)
        | [t] => .ok t
        | ts => .error (.ambiguous s (ts.filterMap fun
          | .option _ spelling _ => some spelling
          | _ => none))

/-- What all arguments are. -/
def tokens : List String → Except UsageError (List Token)
  | [] => .ok []
  | s :: rest =>
    if s = "--" then .ok (.dashes :: rest.map .plain)
    else do
      let t ← Token.of s
      let ts ← tokens rest
      pure (t :: ts)

/-! ## Using arguments up -/

/-- The arguments of a run of the command. An option may be left without a value. -/
structure Arguments where
  expression : String
  root : Option String := some "."
  budget : Option Int := some 50
  rounds : Option Int := some 4
deriving DecidableEq, Repr

/-- What the arguments ask for. -/
inductive Request where
  | help
  | run (a : Arguments)
deriving DecidableEq, Repr

/-- The options read so far, the expression if it has been found, and what is left over. -/
structure Progress where
  expression : Option String := none
  root : Option String := some "."
  budget : Option Int := some 50
  rounds : Option Int := some 4
  leftOver : List String := []

/-- The whole number that is the value of an option. -/
def wholeValue (o : Opt) (value : String) : Except UsageError (Option Int) :=
  if value = "--" then .ok none
  else
    match Number.readDigits? value with
    | some n => .ok (some n)
    | none => .error (.notWhole o value)

/-- Sets an option that takes a value. Two dashes are no value. -/
def Progress.set (p : Progress) (value : String) : Opt → Except UsageError Progress
  | .help => .ok p
  | .root => .ok { p with root := if value = "--" then none else some value }
  | .budget => (wholeValue .budget value).map fun n => { p with budget := n }
  | .rounds => (wholeValue .rounds value).map fun n => { p with rounds := n }

/-- The text attached to the help letter may only repeat the letter. -/
def readHelpLetters : List Char → Except UsageError Request
  | [] => .ok .help
  | c :: cs =>
    if c = 'h' then readHelpLetters cs
    else .error (.valueIgnored .help (String.ofList (c :: cs)))

/-- The help option, whatever is attached to it. -/
def readHelp (spelling : String) : Option String → Except UsageError Request
  | none => .ok .help
  | some value =>
    if spelling = "-h" ∧ value ≠ "" then readHelpLetters value.toList
    else .error (.valueIgnored .help value)

/-- What is asked for once all arguments are used up. -/
def Progress.finish (p : Progress) : Except UsageError Request :=
  match p.expression with
  | none => .error .expressionMissing
  | some expression =>
    if p.leftOver.isEmpty then .ok (.run { p with expression })
    else .error (.leftOver p.leftOver)

/-- The text of the arguments after two dashes. -/
def plainTexts (ts : List Token) : List String :=
  ts.filterMap fun
    | .plain s => some s
    | _ => none

/-- Uses up the arguments from left to right. The first plain argument is the expression; two dashes
next to it go with it. -/
def consume (p : Progress) : List Token → Except UsageError Request
  | [] => p.finish
  | .unknown s :: rest => consume { p with leftOver := p.leftOver ++ [s] } rest
  | .option .help spelling attached :: _ => readHelp spelling attached
  | .option o _ (some value) :: rest => do consume (← p.set value o) rest
  | .option o _ none :: .plain value :: rest => do consume (← p.set value o) rest
  | .option o _ none :: _ => .error (.valueExpected o)
  | .dashes :: rest =>
    match p.expression, plainTexts rest with
    | none, s :: more => { p with expression := some s, leftOver := p.leftOver ++ more }.finish
    | _, more => { p with leftOver := p.leftOver ++ "--" :: more }.finish
  | .plain s :: rest =>
    match p.expression, rest with
    | some _, rest => consume { p with leftOver := p.leftOver ++ [s] } rest
    | none, .dashes :: more =>
      { p with expression := some s, leftOver := p.leftOver ++ plainTexts more }.finish
    | none, rest => consume { p with expression := some s } rest

/-- Reads the arguments of the command. -/
def readArguments (args : List String) : Except UsageError Request := do
  consume {} (← tokens args)

end AgentChain.Command
