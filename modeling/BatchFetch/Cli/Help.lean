import BatchFetch.Cli.Setting

/-! # Help

What the program prints about its own command line, in a short and in a long form. -/

namespace BatchFetch.Cli.Help

def about : String := "Fetch many URLs concurrently with rate limiting, retries and circuit breakers"

def usage : String := "Usage: resilient-fetch [OPTIONS] <URLS>..."

/-- The space before a line that explains an option. -/
def margin : String := "          "

def scopePurpose : Scope → String
  | .url => "One breaker per exact target URL"
  | .host => "One breaker per scheme + host + port"
  | .everything => "A single breaker for the whole batch"

/-- The names among which the value of an option is chosen. -/
def choices (names : List String) : String := "[possible values: " ++ String.intercalate ", " names ++ "]"

/-- How the value of an option is shown: its name in capitals. -/
def valueName (x : Setting) : String :=
  String.ofList (x.name.toList.map fun c => if c = '-' then '_' else c.toUpper)

def head (x : Setting) : String :=
  let letter :=
    match x.letter? with
    | some c => "  -" ++ c.toString ++ ", "
    | none => "      "
  letter ++ "--" ++ x.name ++ " <" ++ valueName x ++ ">"

/-- What is said about the value of an option. -/
def remarks : Setting → List String
  | .breakerScope => [choices (Scope.all.map (·.name))]
  | .format => ["[default: " ++ Format.text.name ++ "]", choices (Format.all.map (·.name))]
  | _ => []

/-- The scopes with what they are for, one below the other. -/
def scopeLines : List String :=
  let width := (Scope.all.map (·.name.length)).foldl max 0
  Scope.all.map fun x => margin ++ "- " ++ x.name ++ ":" ++
    String.ofList (List.replicate (width - x.name.length + 1) ' ') ++ scopePurpose x

/-- The lines about an option in the long form. -/
def longLines (x : Setting) : List String :=
  let more :=
    match x, remarks x with
    | .breakerScope, _ => ["", margin ++ "Possible values:"] ++ scopeLines
    | _, [] => []
    | _, remarks => margin :: remarks.map (margin ++ ·)
  [head x, margin ++ x.purpose] ++ more

/-- The lines about an option in the short form. -/
def shortLines (x : Setting) : List String :=
  [head x, margin ++ String.intercalate " " (x.purpose :: remarks x)]

def short : List String :=
  [about, "", usage, "", "Arguments:", "  <URLS>...  URLs to fetch", "", "Options:"] ++
    Setting.all.flatMap shortLines ++
    ["      --json-logs", margin ++ "Emit logs as JSON",
      "  -h, --help", margin ++ "Print help (see more with '--help')"]

def long : List String :=
  [about, "", usage, "", "Arguments:", "  <URLS>...", margin ++ "URLs to fetch", "", "Options:"] ++
    Setting.all.flatMap (fun x => longLines x ++ [""]) ++
    ["      --json-logs", margin ++ "Emit logs as JSON", "",
      "  -h, --help", margin ++ "Print help (see a summary with '-h')"]

end BatchFetch.Cli.Help
