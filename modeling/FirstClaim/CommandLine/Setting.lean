/-!
# The settings of the command line

Each `Setting` has a long name; some have a letter, and some take a value. `helpText` describes all
of them.
-/

set_option autoImplicit false

namespace FirstClaim.CommandLine

/-- What can be set on the command line. -/
inductive Setting where
  | input
  | output
  | rules
  | store
  | ruleSet
  | saveAs
  | showRules
  | report
  | verbose
  | help
deriving DecidableEq, Repr

namespace Setting

/-- All settings, in the order in which they are described. -/
def all : List Setting :=
  [input, output, rules, store, ruleSet, saveAs, showRules, report, verbose, help]

def name : Setting → String
  | input => "input"
  | output => "output"
  | rules => "rules"
  | store => "store"
  | ruleSet => "rule-set"
  | saveAs => "save-as"
  | showRules => "show-rules"
  | report => "report"
  | verbose => "verbose"
  | help => "help"

def letter? : Setting → Option Char
  | input => some 'i'
  | output => some 'o'
  | rules => some 'r'
  | verbose => some 'v'
  | help => some 'h'
  | store | ruleSet | saveAs | showRules | report => none

def valueName? : Setting → Option String
  | input => some "INPUT"
  | output => some "OUTPUT"
  | rules => some "RULES"
  | store => some "STORE"
  | ruleSet => some "RULE_SET"
  | saveAs => some "SAVE_AS"
  | showRules | report | verbose | help => none

def takesValue (s : Setting) : Bool :=
  s.valueName?.isSome

def purpose : Setting → String
  | input => "Path to the input text (default: stdin)"
  | output => "Output file path (default: stdout)"
  | rules => "Rule-set file (YAML, or JSON with a .json extension)"
  | store => "Rule store directory (default: ~/.local/share/reformat)"
  | ruleSet => "Load a named rule set from the store instead of a file"
  | saveAs => "Save the effective rule set to the store under this name"
  | showRules => "Print the effective rules as YAML and exit"
  | report => "Write a JSON report of claims and skipped rules to stderr"
  | verbose => "Enable debug logging"
  | help => "Print help"

/-- The settings that cannot be used together with another one. -/
def conflicts : Setting → List Setting
  | rules => [ruleSet]
  | ruleSet => [rules]
  | _ => []

def ofName? (name : String) : Option Setting :=
  all.find? (·.name == name)

def ofLetter? (letter : Char) : Option Setting :=
  all.find? (·.letter? == some letter)

/-- The setting as it is written, with its value. -/
def spelling (s : Setting) : String :=
  match s.valueName? with
  | some value => s!"--{s.name} <{value}>"
  | none => s!"--{s.name}"

end Setting

/-- How the program is called; settings that matter are told, or else that there are some. -/
def usageLine (settings : List Setting) : String :=
  if settings.isEmpty then "Usage: reformat [OPTIONS]"
  else "Usage: reformat " ++ String.intercalate " " (settings.map (·.spelling))

/-! ## Help -/

/-- The width of the column of spellings. -/
def spellingWidth : Nat :=
  (Setting.all.map (·.spelling.length)).foldl max 0

def helpLine (s : Setting) : String :=
  let letter := match s.letter? with
    | some c => s!"  -{c}, "
    | none => "      "
  let gap := String.ofList (List.replicate (spellingWidth + 2 - s.spelling.length) ' ')
  letter ++ s.spelling ++ gap ++ s.purpose ++ "\n"

def helpText : String :=
  "Rewrite text with an ordered list of regex rules, earlier rules winning overlaps\n\n" ++
    usageLine [] ++ "\n\nOptions:\n" ++ String.join (Setting.all.map helpLine)

end FirstClaim.CommandLine
