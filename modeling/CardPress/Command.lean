import CardPress.Report

/-!
# The command line

Three commands on a definitions file: draw every face, list the templates, and compose every face
without drawing. What is printed is a document; the exit code tells failures apart.
-/

namespace CardPress

inductive Command where
  | generate | templates | validate
  deriving DecidableEq, Repr

/-- What the arguments ask for. -/
structure Invocation where
  command : Command
  cards : String
  config : Option String
  deriving DecidableEq, Repr

/-- Why arguments ask for nothing. -/
inductive UsageStop where
  /-- Help was wanted. -/
  | help
  | mistake
  deriving DecidableEq, Repr

namespace Command

def named : List (String × Command) :=
  [("generate", .generate), ("templates", .templates), ("validate", .validate)]

def standardCards : String := "cards.json"

/-! ## Arguments -/

/-- The options that come before the command. -/
structure Options where
  cards : Option String
  config : Option String

def Options.setCards (o : Options) (path : String) : Except UsageStop Options :=
  if o.cards.isSome || path = "" then .error .mistake else .ok { o with cards := some path }

def Options.setConfig (o : Options) (path : String) : Except UsageStop Options :=
  if o.config.isSome || path = "" then .error .mistake else .ok { o with config := some path }

/-- Whether an argument asks for help; what is joined to the short form does not matter. -/
def isHelp (argument : String) : Bool :=
  match argument.toList with
  | '-' :: 'h' :: _ => true
  | _ => argument == "--help"

/-- Whether an argument cannot be the value of the option before it. -/
def isOption (argument : String) : Bool :=
  match argument.toList with
  | '-' :: _ :: _ => true
  | _ => false

/-- What follows a beginning. -/
def rest? (beginning argument : String) : Option String :=
  let cs := argument.toList
  if beginning.toList.isPrefixOf cs then some (String.ofList (cs.drop beginning.length)) else none

/-- An option with its value in one argument. -/
def joined? (o : Options) (argument : String) : Option (Except UsageStop Options) :=
  ((rest? "--cards=" argument).map o.setCards).or <|
    ((rest? "--config=" argument).map o.setConfig).or <|
    ((rest? "-c=" argument).map o.setCards).or <|
    if argument = "-c" then none else (rest? "-c" argument).map o.setCards

/-- What to do about the arguments after a command: it has none but the wish for help and the mark
that no options follow. -/
def afterCommand (command : Command) (o : Options) : List String → Except UsageStop Invocation
  | [] | ["--"] => .ok ⟨command, o.cards.getD standardCards, o.config⟩
  | argument :: _ => .error (if isHelp argument then .help else .mistake)

/-- The help command takes at most the name of a command. -/
def afterHelp : List String → UsageStop
  | [] => .help
  | [name] => if name = "help" || (named.lookup name).isSome then .help else .mistake
  | _ => .mistake

def parseFrom (o : Options) : List String → Except UsageStop Invocation
  | [] => .error .mistake
  | "--cards" :: value :: rest | "-c" :: value :: rest =>
    if isOption value then .error .mistake else do parseFrom (← o.setCards value) rest
  | "--config" :: value :: rest =>
    if isOption value then .error .mistake else do parseFrom (← o.setConfig value) rest
  | argument :: rest =>
    if isHelp argument then .error .help
    else
      match joined? o argument, named.lookup argument with
      | some o, _ => do parseFrom (← o) rest
      | none, some command => afterCommand command o rest
      | none, none => .error (if argument = "help" then afterHelp rest else .mistake)

def parse (arguments : List String) : Except UsageStop Invocation :=
  parseFrom ⟨none, none⟩ arguments

/-! ## Results -/

/-- What a command does: what it prints, its exit code, and the run it leaves behind. -/
structure Outcome where
  exitCode : Nat
  /-- Nothing for a document means help or a hint at the usage. -/
  output : Option Json
  run : Run

def failure (run : Run) (exitCode : Nat) (key message : String) : Outcome :=
  ⟨exitCode, some (.object [(key, .bool false), ("error", .string message)]), run⟩

/-- How a run is named in its report, and when it began and ended. -/
structure Occasion where
  runId : String
  startedAt : String
  finishedAt : String

def generateDeck (occasion : Occasion) (deck : Deck) (config : Config) (run : Run) : Outcome :=
  match Capabilities.standard with
  | .error fault => failure run 1 "success" fault.message
  | .ok capabilities =>
    match deck.generateAll capabilities config run with
    | (.error fault, run) => failure run 1 "success" fault.message
    | (.ok report, run) =>
      let document : Json := .object [
        ("success", .bool report.isSuccess),
        ("report", report.toJson occasion.runId occasion.startedAt occasion.finishedAt)]
      ⟨if report.isSuccess then 0 else 2, some document, run⟩

/-- The entry of a labelled face in the list of templates. -/
def templateEntry (s : FaceSummary) : Json :=
  .object [
    ("label", .ofText? s.label),
    ("is_template", .bool s.isTemplate),
    ("templates", .array (s.templates.map .string)),
    ("size", Size.toJson? s.size),
    ("error", .ofText? s.error)]

def listTemplates (deck : Deck) (run : Run) : Outcome :=
  match deck.validate with
  | .error fault => failure run 1 "success" fault.message
  | .ok faces =>
    ⟨0, some (.array ((faces.filter (·.label.isSome)).map templateEntry)), run⟩

def validateDeck (deck : Deck) (run : Run) : Outcome :=
  match deck.validate with
  | .error fault => failure run 2 "valid" fault.message
  | .ok faces =>
    let isValid := faces.all (·.error.isNone)
    let document : Json := .object [
      ("valid", .bool isValid), ("faces", .array (faces.map FaceSummary.toJson))]
    ⟨if isValid then 0 else 2, some document, run⟩

def perform (invocation : Invocation) (occasion : Occasion) (run : Run) : Outcome :=
  let config := match invocation.config with
    | some path => Config.load run.files path
    | none => .ok .standard
  match config with
  | .error fault => failure run 1 "success" fault.message
  | .ok config =>
    match Deck.load run.files invocation.cards with
    | .error fault => failure run 1 "success" fault.message
    | .ok deck =>
      match invocation.command with
      | .generate => generateDeck occasion deck config run
      | .templates => listTemplates deck run
      | .validate => validateDeck deck run

/-- Do what the arguments ask for. -/
def execute (arguments : List String) (occasion : Occasion) (files : FileStore) : Outcome :=
  let run := Run.start files ∅
  match parse arguments with
  | .error .help => ⟨0, none, run⟩
  | .error .mistake => ⟨2, none, run⟩
  | .ok invocation => perform invocation occasion run

end Command

end CardPress
