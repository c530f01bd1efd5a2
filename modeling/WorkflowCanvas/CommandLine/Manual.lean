import WorkflowCanvas.CommandLine.Request
/-!
# The manual

The pages that explain the program and its commands. A page lists entries
in two columns, or with the explanation on a line of its own under the
entry: all entries of a section go that way as soon as the entries take
up much of the page and one of the explanations does not fit beside them.
-/


namespace WorkflowCanvas

namespace CommandLine

/-- The name of the program. -/
def programName : String := "flowbox"

/-- The version of the program. -/
def version : String := programName ++ " 0.1.0\n"

/-- What the program is for. -/
def programAbout : String := "Turn visual process graphs into executable processes"

/-- The name of the command that shows the manual. -/
def helpName : String := "help"

/-- What the command that shows the manual does. -/
def helpAbout : String := "Print this message or the help of the given subcommand(s)"

/-- An entry of a section and its explanation. -/
structure Entry where
  label : String
  text : String

/-- A text with blanks behind it, up to a width. -/
def padRight (width : Nat) (s : String) : String :=
  s ++ String.ofList (List.replicate (width - s.length) ' ')

/-- How many characters a line of the manual takes. -/
def pageWidth : Nat := 100

/-- The explanations go under the entries: beside entries of a width they
have less than six tenths of the page, and one of them is too long for
it. -/
def isStacked (width : Nat) (entries : List Entry) : Bool :=
  let taken := width + 12
  taken ≤ pageWidth && taken * 10 > pageWidth * 4
    && entries.any fun e => e.text.length > pageWidth - taken

/-- A section of a page. -/
def sectionText (title : String) (mayStack : Bool) (entries : List Entry) : String :=
  let width := (entries.map fun e => e.label.length).foldl max 2
  let line (e : Entry) : String :=
    if mayStack && isStacked width entries then "  " ++ e.label ++ "\n          " ++ e.text ++ "\n"
    else "  " ++ padRight (width + 2) e.label ++ e.text ++ "\n"
  "\n" ++ title ++ ":\n" ++ String.join (entries.map line)

/-- The entry of an option, given its letter and its name with the
placeholder. -/
def optionEntry (letter? : Option Char) (long text : String) : Entry where
  label := (match letter? with
    | some c => "-" ++ c.toString ++ ", "
    | none => "    ") ++ "--" ++ long
  text := text

/-- The entry of a parameter that is an option. -/
def Parameter.optionEntry (p : Parameter) : Entry :=
  CommandLine.optionEntry p.letter? (p.name ++ " <" ++ p.placeholder ++ ">") p.help

/-- The entry of a parameter without a name in front. -/
def Parameter.operandEntry (p : Parameter) : Entry := ⟨"<" ++ p.placeholder ++ ">", p.help⟩

/-- The option that shows a page. -/
def helpEntry : Entry := optionEntry (some 'h') "help" "Print help"

/-- The option that shows the version. -/
def versionEntry : Entry := optionEntry (some 'V') "version" "Print version"

/-- The head of a page. -/
def head (about usage : String) : String := about ++ "\n\nUsage: " ++ programName ++ usage ++ "\n"

/-- **The page of the program.** -/
def programPage : String :=
  head programAbout " [OPTIONS] <COMMAND>"
  ++ sectionText "Commands" false
    ((commands.map fun c => ⟨c.name, c.about⟩) ++ [⟨helpName, helpAbout⟩])
  ++ sectionText "Options" true
    (commonOptions.map Parameter.optionEntry ++ [helpEntry, versionEntry])

/-- **The page of a command.** -/
def commandPage (c : Command) : String :=
  head c.about (" " ++ c.name ++ " [OPTIONS]"
    ++ String.join (c.operands.map fun p => " " ++ p.operandEntry.label))
  ++ (if c.operands.isEmpty then ""
      else sectionText "Arguments" true (c.operands.map Parameter.operandEntry))
  ++ sectionText "Options" true (c.options.map Parameter.optionEntry ++ [helpEntry])

/-- The page of the command that shows the manual. -/
def helpPage : String :=
  head helpAbout (" " ++ helpName ++ " [COMMAND]...")
  ++ sectionText "Arguments" true [⟨"[COMMAND]...", "Print help for the subcommand(s)"⟩]

end CommandLine

end WorkflowCanvas
