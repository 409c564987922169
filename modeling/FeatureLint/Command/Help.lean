import FeatureLint.Command
import FeatureLint.Config

namespace FeatureLint

def programName : String := "gherkin-lint"

def version : String := "0.1.0"

/-- The variable of the environment that stands in for the option of the ignore tag. -/
def ignoreTagVariable : String := "GHERKIN_LINT_IGNORE_TAG"

namespace Page

def unlines (ls : List String) : String := String.join (ls.map (· ++ "\n"))

def aboutCheck : String :=
  "Check parse dumps for comments between scenario tags and the scenario keyword"

def aboutInit : String := "Initialize a new " ++ Config.fileName ++ " configuration file"

def aboutHelp : String := "Print this message or the help of the given subcommand(s)"

def overviewText : String := unlines [
  "Checks Gherkin feature files for comments placed between scenario tags and the scenario keyword",
  "",
  "Usage: " ++ programName ++ " [COMMAND]",
  "",
  "Commands:",
  "  check  " ++ aboutCheck,
  "  init   " ++ aboutInit,
  "  help   " ++ aboutHelp,
  "",
  "Options:",
  "  -h, --help     Print help",
  "  -V, --version  Print version"]

/-- Lines after the first of a description are moved to its column. -/
def hanging (text : String) : String :=
  String.ofList (text.toList.flatMap fun c => if c = '\n' then c :: List.replicate 33 ' ' else [c])

/-- The page shows the ignore tag that the environment gives. -/
def checkText (ignoreTag : Option String) : String := unlines [
  aboutCheck,
  "",
  "Usage: " ++ programName ++ " check [OPTIONS] [PATHS]...",
  "",
  "Arguments:",
  "  [PATHS]...  Parse dumps or directories to check (default: configured includes)",
  "",
  "Options:",
  "      --path <PATH>              "
    ++ "Project root used to find the configuration file and default includes [default: .]",
  "      --ignore-tag <IGNORE_TAG>  "
    ++ "Tag that disables the check for a scenario when last on a tag line "
    ++ "(overrides config file) [env: " ++ ignoreTagVariable ++ "=" ++ hanging (ignoreTag.getD "")
    ++ "]",
  "  -v, --verbose                  Enable verbose output",
  "  -h, --help                     Print help"]

def initText : String := unlines [
  aboutInit,
  "",
  "Usage: " ++ programName ++ " init",
  "",
  "Options:",
  "  -h, --help  Print help"]

def helpText : String := unlines [
  aboutHelp,
  "",
  "Usage: " ++ programName ++ " help [COMMAND]...",
  "",
  "Arguments:",
  "  [COMMAND]...  Print help for the subcommand(s)"]

def text (ignoreTag : Option String) : Page → String
  | .overview => overviewText
  | .check => checkText ignoreTag
  | .init => initText
  | .help => helpText

end Page

def versionText : String := programName ++ " " ++ version ++ "\n"

end FeatureLint
