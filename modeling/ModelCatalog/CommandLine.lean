import ModelCatalog.Generation

/-! The command line: options, what they ask for, and how the program ends. -/
namespace ModelCatalog.CommandLine

inductive Setting
  | root | database | products | infoTable | serialTable | boardMap | minYear
deriving DecidableEq, Repr

def Setting.name : Setting → String
  | .root => "root"
  | .database => "database"
  | .products => "products"
  | .infoTable => "macinfo-out"
  | .serialTable => "macserial-out"
  | .boardMap => "boards-out"
  | .minYear => "min-year"

def Setting.all : List Setting :=
  [.root, .database, .products, .infoTable, .serialTable, .boardMap, .minYear]

def Setting.ofName? (name : String) : Option Setting :=
  Setting.all.find? fun setting => setting.name = name

/-- A year: an optional sign and digits, from zero to the greatest number of 32 bits. -/
def year? (text : String) : Option UInt32 :=
  let (negative, digits) :=
    match text.toList with
    | '-' :: rest => (true, rest)
    | '+' :: rest => (false, rest)
    | rest => (false, rest)
  (Number.ofDigits? 10 digits).bind fun n =>
    if n < UInt32.size && (!negative || n = 0) then some (UInt32.ofNat n) else none

/-- Sets an option that is not set yet; a value may not be empty. -/
def Setting.assign? (setting : Setting) (layout : Layout) (value : String) : Option Layout :=
  let path : Path := ⟨value⟩
  if value.isEmpty then none
  else match setting with
    | .root => some { layout with root := some path }
    | .database => some { layout with database := some path }
    | .products => some { layout with products := some path }
    | .infoTable => some { layout with infoTable := some path }
    | .serialTable => some { layout with serialTable := some path }
    | .boardMap => some { layout with boardMap := some path }
    | .minYear => (year? value).map fun year => { layout with minYear := year }

inductive Request
  | generate (layout : Layout)
  | help
  | misuse
deriving DecidableEq, Repr

structure Options where
  layout : Layout := {}
  given : List Setting := []
  checked : Bool := false
deriving Repr

def Options.set? (o : Options) (setting : Setting) (value : String) : Option Options :=
  if setting ∈ o.given then none
  else (setting.assign? o.layout value).map fun layout =>
    { o with layout := layout, given := setting :: o.given }

def Options.check? (o : Options) : Option Options :=
  if o.checked then none
  else some { o with layout := { o.layout with checkOnly := true }, checked := true }

/-- An argument by its form. -/
inductive Argument
  /-- Two hyphens alone: nothing behind them is an option. -/
  | separator
  | help
  | check
  | setting (setting : Setting)
  | settingWith (setting : Setting) (value : String)
  | other
deriving DecidableEq, Repr

/-- An option whose value may stand behind the first equals sign. -/
def longArgument (body : List Char) : Argument :=
  let name := String.ofList (body.takeWhile (· != '='))
  match body.dropWhile (· != '='), Setting.ofName? name with
  | [], some setting => .setting setting
  | _ :: value, some setting => .settingWith setting (String.ofList value)
  | [], none => if name = "help" then .help else if name = "check" then .check else .other
  | _ :: _, none => .other

def Argument.ofText (text : String) : Argument :=
  match text.toList with
  | ['-', '-'] => .separator
  | '-' :: '-' :: body => longArgument body
  | '-' :: 'h' :: _ => .help
  | _ => .other

/-- Whether an argument may be the value of the option before it. -/
def mayBeValue (text : String) : Bool := text.toList.head? != some '-' || text = "-"

/-- Reads the arguments in their order; the first that is wrong, or asks for help, decides. -/
def parseFrom : Options → List String → Request
  | o, [] => .generate o.layout
  | o, text :: rest =>
    match Argument.ofText text, rest with
    | .separator, [] => .generate o.layout
    | .separator, _ :: _ => .misuse
    | .help, _ => .help
    | .check, rest =>
      match o.check? with
      | some o => parseFrom o rest
      | none => .misuse
    | .settingWith setting value, rest =>
      match o.set? setting value with
      | some o => parseFrom o rest
      | none => .misuse
    | .setting setting, value :: rest =>
      if mayBeValue value then
        match o.set? setting value with
        | some o => parseFrom o rest
        | none => .misuse
      else .misuse
    | .setting _, [] => .misuse
    | .other, _ => .misuse

def parse (arguments : List String) : Request := parseFrom {} arguments

/-- How the program ends: its status, what it logged, and what it reports about a fault. Help and
misuse are answered by other text. -/
inductive Ending
  | success (log : Log)
  | failure (log : Log) (fault : Fault)
  | help
  | misuse

def Ending.status : Ending → Nat
  | .success _ => 0
  | .failure _ _ => 1
  | .help => 0
  | .misuse => 2

def closingMessage (summary : Summary) : String :=
  if summary.written then
    "Generated " ++ toString summary.artifacts.length ++ " files from " ++
      toString summary.models ++ " models"
  else "Check passed for " ++ toString summary.models ++ " models, nothing written"

def run (t : Tree) (arguments : List String) : Tree × Ending :=
  match parse arguments with
  | .help => (t, .help)
  | .misuse => (t, .misuse)
  | .generate layout =>
    let (t, generated) := generate t layout
    match generated.result with
    | .error fault => (t, .failure generated.log fault)
    | .ok summary =>
      (t, .success (generated.log ++ [⟨.info, .commandLine, closingMessage summary⟩]))

/-- The name under which a part of the library logs. -/
def sourceName : Source → String
  | .loader => "macmodels::loader"
  | .products => "macmodels::products"
  | .collect => "macmodels::collect"
  | .validate => "macmodels::validate"
  | .pipeline => "macmodels::pipeline"
  | .commandLine => "macmodels_gen"

/-- A line of the log; events for debugging are not shown. -/
def logLine? (event : LogEvent) : Option String :=
  if event.level = .debug then none
  else some (event.level.word ++ " " ++ sourceName event.source ++ ": " ++ event.message)

/-- The causes of a fault: one stands alone, several have numbers, and the further lines of a cause
stand under its first. -/
def causeLines : List String → List String
  | [cause] => ["    " ++ cause]
  | causes => causes.mapIdx fun number cause =>
    "    " ++ toString number ++ ": " ++ cause.replace "\n" "\n       "

/-- The report of a fault, with what lies behind it on lines of its own. -/
def report (fault : Fault) : String :=
  "Error: " ++ fault.message ++ "\n" ++
    match fault.cause? with
    | some cause => "\nCaused by:\n" ++ "\n".intercalate (causeLines cause.messages) ++ "\n"
    | none => ""

def helpText : String :=
  "Update autogenerated sources from the model database\n\n" ++
  "Usage: macmodels-gen [OPTIONS]\n\n" ++
  "Options:\n" ++
  "      --root <ROOT>                    Model database directory (default: " ++
  "current directory)\n" ++
  "      --database <DATABASE>            Directory of YAML model records (default: " ++
  "\x7broot\x7d/DataBase)\n" ++
  "      --products <PRODUCTS>            Products registry, .zjson/.json/.yaml (default: " ++
  "\x7broot\x7d/DataBase/Products.zjson)\n" ++
  "      --macinfo-out <MACINFO_OUT>      Output path of the platform-info table\n" ++
  "      --macserial-out <MACSERIAL_OUT>  Output path of the serial generator header\n" ++
  "      --boards-out <BOARDS_OUT>        Output path of the recovery board list\n" ++
  "      --min-year <MIN_YEAR>            Oldest model year to keep in the platform-info table " ++
  "[default: 0]\n" ++
  "      --check                          Validate and render without writing any file\n" ++
  "  -h, --help                           Print help\n"

def misuseText : String :=
  "error: invalid arguments\n\nFor more information, try '--help'.\n"

end ModelCatalog.CommandLine
