import ClassroomC.Literal
/-!
# The words of the command line

The command line takes one source file (`-` for the standard input), at most
one of `--expected TEXT` and `--expected-file FILE`, an optional
`--loop-budget N`, any number of `-v`, and `-h` for help.

Words are read in the usual way of such tools:

* a word that starts with `-` names an option, the first `--` ends the
  options, and a lone `-`, a negative number or a word with a blank is a
  plain value;
* a long option may be shortened to any prefix that names only it, and its
  value may follow as the next word or after `=`;
* short flags may be joined, as in `-vv`, and a character that names no
  flag refuses the whole word;
* the first plain value is the source, and unknown options and spare values
  are refused once everything else has been read.

A refusal names the option it concerns. Help stops the reading where it
stands.
-/

namespace ClassroomC.CommandLine

/-- The options of the command line. -/
inductive CommandOption where
  | help | expected | expectedFile | loopBudget | verbose
  deriving Repr, BEq, DecidableEq

namespace CommandOption

/-- Whether the option takes a value. -/
def takesValue : CommandOption → Bool
  | .expected | .expectedFile | .loopBudget => true
  | .help | .verbose => false

/-- How a refusal names the option: all its spellings. -/
def title : CommandOption → String
  | .help => "-h/--help"
  | .expected => "--expected"
  | .expectedFile => "--expected-file"
  | .loopBudget => "--loop-budget"
  | .verbose => "-v/--verbose"

end CommandOption

/-- Every spelling of every option, in the order they are listed. -/
def spellings : List (String × CommandOption) :=
  [("-h", .help), ("--help", .help), ("--expected", .expected),
   ("--expected-file", .expectedFile), ("--loop-budget", .loopBudget),
   ("-v", .verbose), ("--verbose", .verbose)]

/-- The option a spelling names exactly. -/
def lookup (spelled : String) : Option CommandOption :=
  (spellings.find? (·.1 == spelled)).map (·.2)

/-- How a word of the command line is read. -/
inductive Word where
  /-- A plain value. -/
  | plain
  /-- The first `--`, which ends the options. -/
  | separator
  /-- An option word: the option, if one matched, its spelling, and the
  text attached to it, after `=` or directly after a short option. -/
  | option (matched : Option CommandOption) (spelled : String) (attached : Option String)
  deriving Repr, BEq, DecidableEq

/-- Whether the text is `-` followed by a number, digits or digits with a
fraction, where one line break may end the text. -/
def isNegativeNumber (text : String) : Bool :=
  let body := match text.toList.reverse with
    | '\n' :: rest => rest.reverse
    | _ => text.toList
  match body with
  | '-' :: rest =>
    let (whole, fraction) := rest.span Unicode.isDecimalDigit
    match fraction with
    | [] => !whole.isEmpty
    | '.' :: digits => !digits.isEmpty && digits.all Unicode.isDecimalDigit
    | _ => false
  | _ => false

/-- The options a word could stand for, each with the spelling and the
attached text it would have. A long word matches every spelling that its
part before `=` is a prefix of; a short word matches the short option of its
first two characters, with the rest attached, and every spelling it is a
prefix of. -/
def candidates (word : String) : List (CommandOption × String × Option String) :=
  match word.toList with
  | '-' :: '-' :: _ =>
    let (stem, attached) := match word.splitOn "=" with
      | stem :: rest@(_ :: _) => (stem, some ("=".intercalate rest))
      | _ => (word, none)
    spellings.filterMap fun (spelled, option) =>
      if stem.isPrefixOf spelled then some (option, spelled, attached) else none
  | '-' :: second :: rest =>
    let short := String.ofList ['-', second]
    spellings.filterMap fun (spelled, option) =>
      if spelled == short then some (option, spelled, some (String.ofList rest))
      else if word.isPrefixOf spelled then some (option, spelled, none)
      else none
  | _ => []

/-- A refusal of the command line, with its message. -/
structure UsageError where
  message : String
  deriving Repr, BEq, DecidableEq

/-- Read one word that comes before any `--`: an exact spelling, a spelling
with text after `=`, then the spellings the word could shorten. A word that
matches none is a plain value if it is a lone `-`, a negative number or has
a blank in it, and an unknown option otherwise. -/
def classify (word : String) : Except UsageError Word :=
  match word.toList with
  | [] => .ok .plain
  | first :: rest =>
    if first != '-' then .ok .plain
    else match lookup word with
    | some option => .ok (.option (some option) word none)
    | none =>
      if rest.isEmpty then .ok .plain
      else
        let split := match word.splitOn "=" with
          | stem :: more@(_ :: _) => (lookup stem).map fun option =>
              Word.option (some option) stem (some ("=".intercalate more))
          | _ => none
        match split with
        | some found => .ok found
        | none =>
          match candidates word with
          | [(option, spelled, attached)] => .ok (.option (some option) spelled attached)
          | [] =>
            if isNegativeNumber word || word.contains ' ' then .ok .plain
            else .ok (.option none word none)
          | many =>
            let names := ", ".intercalate (many.map fun (_, spelled, _) => spelled)
            .error ⟨s!"ambiguous option: {word} could match {names}"⟩

/-- Read all words: after the first `--` every word is plain. -/
def classifyAll : List String → Except UsageError (List Word)
  | [] => .ok []
  | word :: more =>
    if word == "--" then .ok (.separator :: more.map fun _ => .plain)
    else do
      let first ← classify word
      let rest ← classifyAll more
      pure (first :: rest)

/-- A value given to an option that takes one: a text, or nothing when `--`
was all that was attached to the option, since the first `--` among the
values of an option is dropped. -/
inductive Given (α : Type) where
  | value (value : α)
  | nothing
  deriving Repr, BEq, DecidableEq

/-- What the command line asks for. -/
structure Arguments where
  source : String
  expected : Option (Given String) := none
  expectedFile : Option (Given String) := none
  loopBudget : Option (Given Int) := none
  verbosity : Nat := 0
  deriving Repr, BEq, DecidableEq

/-- The result of reading the command line: the arguments, a request for
help, or a refusal. -/
inductive Reading where
  | run (arguments : Arguments)
  | help
  | refused (error : UsageError)
  deriving Repr, BEq, DecidableEq

/-- What has been read so far. -/
structure Gathered where
  source : Option String := none
  expected : Option (Given String) := none
  expectedFile : Option (Given String) := none
  loopBudget : Option (Given Int) := none
  verbosity : Nat := 0
  /-- Words that no option or argument took. -/
  spare : Array String := #[]

/-- Why reading stops early: help was asked for, or a word was refused. -/
inductive Stop where
  | help
  | refused (error : UsageError)

/-- A refusal that concerns `option`. -/
def refuse (option : CommandOption) (message : String) : Stop :=
  .refused ⟨s!"argument {option.title}: {message}"⟩

/-- The refusal of text attached to a flag, which takes none. -/
def ignoredText (option : CommandOption) (text : String) : Stop :=
  refuse option ("ignored explicit argument " ++ Text.quote text)

/-- The number of decimal digits integer conversion accepts. -/
def digitLimit : Nat := 4300

/-- Read an integer value the lenient way of integer conversion. -/
def readInteger (text : String) : Option Int :=
  if (text.toList.filter Unicode.isDecimalDigit).length > digitLimit then none
  else Literal.readInt 10 text

/-- Apply `option` with its values to what has been read: the first `--`
among the values is dropped, and a value option keeps the first value left,
or nothing. A value of `--expected` and one of `--expected-file` exclude each
other. -/
def apply (gathered : Gathered) (option : CommandOption) (values : List String) :
    Except Stop Gathered :=
  let given : Given String := match values.erase "--" with
    | text :: _ => .value text
    | [] => .nothing
  match option with
  | .help => .error .help
  | .verbose => .ok { gathered with verbosity := gathered.verbosity + 1 }
  | .expected =>
    if gathered.expectedFile.isSome then
      .error (refuse .expected s!"not allowed with argument {CommandOption.expectedFile.title}")
    else .ok { gathered with expected := some given }
  | .expectedFile =>
    if gathered.expected.isSome then
      .error (refuse .expectedFile s!"not allowed with argument {CommandOption.expected.title}")
    else .ok { gathered with expectedFile := some given }
  | .loopBudget =>
    match given with
    | .nothing => .ok { gathered with loopBudget := some .nothing }
    | .value text =>
      match readInteger text with
      | some budget => .ok { gathered with loopBudget := some (.value budget) }
      | none => .error (refuse .loopBudget ("invalid int value: " ++ Text.quote text))

/-- Apply options with their values in order. -/
def applyAll (gathered : Gathered) (taken : List (CommandOption × List String)) :
    Except Stop Gathered :=
  taken.foldlM (fun gathered (option, values) => apply gathered option values) gathered

/-- The options of one option word with `attached` text, as `-vv` joins two
flags. An option that takes a value takes the text. After a short flag each
character names the next short option, with the rest of the text attached to
it; the last one named, with nothing attached, is left to take its values
from the words after. Text attached to a long flag, or a character that names
no option, is refused. -/
def joined (option : CommandOption) (long : Bool) (attached : List Char) :
    Except Stop (List (CommandOption × List String) × Option CommandOption) :=
  if option.takesValue then .ok ([(option, [String.ofList attached])], none)
  else
    match long, attached with
    | false, c :: rest =>
      match lookup (String.ofList ['-', c]) with
      | none => .error (ignoredText option (String.ofList attached))
      | some next =>
        if rest.isEmpty then .ok ([(option, [])], some next)
        else do
          let (flags, last) ← joined next false rest
          pure ((option, []) :: flags, last)
    | _, _ => .error (ignoredText option (String.ofList attached))

/-- The source, if the words start with it: a plain word, with the
separator just before or just after it taken along. Gives the source and the
words after it. -/
def sourceAt : (words : List (String × Word)) →
    Option (String × { rest : List (String × Word) // rest.length < words.length })
  | (_, .separator) :: (text, .plain) :: rest =>
    some (text, ⟨rest, by simp only [List.length_cons]; omega⟩)
  | (text, .plain) :: (_, .separator) :: rest =>
    some (text, ⟨rest, by simp only [List.length_cons]; omega⟩)
  | (text, .plain) :: rest => some (text, ⟨rest, by simp only [List.length_cons]; omega⟩)
  | _ => none

/-- Whether a word is an option word. -/
def Word.isOption : Word → Bool
  | .option .. => true
  | _ => false

/-- Read the words in order. Options and the source alternate: an option
word takes its values, its own attached text or the plain word after it,
and its options are applied once all of them are known; between options the
source is taken if it is still wanted, and other plain words are spare. Once
no option word is left, the source is taken if it is still wanted and all
else is spare. -/
def gather (gathered : Gathered) : List (String × Word) → Except Stop Gathered
  | [] => .ok gathered
  | (text, word) :: more =>
    if !(((text, word) :: more).any fun (_, word) => word.isOption) then
      match gathered.source, sourceAt ((text, word) :: more) with
      | none, some (source, ⟨rest, _⟩) =>
        .ok { gathered with source := some source, spare := gathered.spare ++ (rest.map (·.1)).toArray }
      | _, _ =>
        .ok { gathered with spare := gathered.spare ++ (((text, word) :: more).map (·.1)).toArray }
    else
      match word with
      | .option none _ _ => gather { gathered with spare := gathered.spare.push text } more
      | .option (some option) spelled attached =>
        let steps := match attached with
          | some text => joined option (spelled.startsWith "--") text.toList
          | none => .ok ([], some option)
        match steps with
        | .error stop => .error stop
        | .ok (taken, none) => do
          let gathered ← applyAll gathered taken
          gather gathered more
        | .ok (taken, some last) =>
          if last.takesValue then
            match more with
            | (value, .plain) :: rest => do
              let gathered ← applyAll gathered (taken ++ [(last, [value])])
              gather gathered rest
            | _ => .error (refuse last "expected one argument")
          else do
            let gathered ← applyAll gathered (taken ++ [(last, [])])
            gather gathered more
      | _ =>
        match gathered.source, sourceAt ((text, word) :: more) with
        | none, some (source, ⟨rest, _⟩) => gather { gathered with source := some source } rest
        | _, _ =>
          let plain := more.takeWhile fun (_, word) => !word.isOption
          let spare := text :: plain.map (·.1)
          gather { gathered with spare := gathered.spare ++ spare.toArray } (more.drop plain.length)
termination_by words => words.length
decreasing_by
  all_goals simp only [List.length_cons, List.length_drop]
  all_goals omega

/-- Read the command line. -/
def read (words : List String) : Reading :=
  match classifyAll words with
  | .error refusal => .refused refusal
  | .ok classified =>
    match gather {} (words.zip classified) with
    | .error .help => .help
    | .error (.refused refusal) => .refused refusal
    | .ok gathered =>
      match gathered.source with
      | none => .refused ⟨"the following arguments are required: source"⟩
      | some source =>
        if gathered.spare.isEmpty then
          .run { source
                 expected := gathered.expected
                 expectedFile := gathered.expectedFile
                 loopBudget := gathered.loopBudget
                 verbosity := gathered.verbosity }
        else .refused ⟨"unrecognized arguments: " ++ " ".intercalate gathered.spare.toList⟩

/-- The usage summary. -/
def usage : String :=
  "usage: minic [-h] [--expected EXPECTED | --expected-file EXPECTED_FILE]\n" ++
  "             [--loop-budget LOOP_BUDGET] [-v]\n" ++
  "             source\n"

/-- The help text. -/
def helpText : String :=
  usage ++ "\n" ++
  "Run a C-subset program in-process and optionally judge its output.\n\n" ++
  "positional arguments:\n" ++
  "  source                C source file, or '-' for stdin\n\n" ++
  "options:\n" ++
  "  -h, --help            show this help message and exit\n" ++
  "  --expected EXPECTED   expected output text\n" ++
  "  --expected-file EXPECTED_FILE\n" ++
  "                        file holding the expected output\n" ++
  "  --loop-budget LOOP_BUDGET\n" ++
  "                        maximum loop iterations per run (default:\n" ++
  "                        MINIC_LOOP_BUDGET or 100000)\n" ++
  "  -v, --verbose         increase log verbosity (-v info, -vv debug)\n"

end ClassroomC.CommandLine
