import EndpointDocs.Extraction

/-!
# The command line

The arguments of the program, and what it prints for the files they name.
-/

namespace EndpointDocs

inductive OutputFormat where
  | json
  | yaml
deriving DecidableEq, Repr

structure ExtractCommand where
  metadataPath : Text
  configPath : Option Text
  kinds : List TagKind
  format : OutputFormat
  seed : Option UInt64
deriving DecidableEq, Repr

/-- What the arguments ask for. -/
inductive Request where
  | version
  | help
  | extract (command : ExtractCommand)
  | misuse
deriving DecidableEq, Repr

structure Outcome where
  exitCode : Nat
  output : Text
  errorLine : Option Text
deriving DecidableEq, Repr

namespace ExtractCommand

/-- Options of a request as far as they have been read. -/
structure Draft where
  paths : List Text
  config : Option Text
  kinds : Option (List TagKind)
  format : Option OutputFormat
  seed : Option UInt64

/-- The unsigned number of 64 bits that digits spell, perhaps after a plus. -/
def seed? (s : Text) : Option UInt64 :=
  let digits := match s with
    | '+' :: digits => digits
    | _ => s
  if digits.isEmpty || !digits.all Char.isDigit then none
  else
    let n := Text.digitsToNat digits
    if n < 0x10000000000000000 then some (UInt64.ofNat n) else none

def kinds? (s : Text) : Option (List TagKind) :=
  if s = "body".toList then some [.body]
  else if s = "url".toList then some [.url]
  else if s = "all".toList then some TagKind.all
  else none

def format? (s : Text) : Option OutputFormat :=
  if s = "json".toList then some .json
  else if s = "yaml".toList then some .yaml
  else none

namespace Draft

/-- Gives an option its value.  An option may be given once. -/
def setOption? (draft : Draft) (name value : Text) : Option Draft :=
  if name = "config".toList then
    if draft.config.isSome || value.isEmpty then none else some { draft with config := some value }
  else if name = "kind".toList then
    if draft.kinds.isSome then none
    else (kinds? value).map fun kinds ↦ { draft with kinds := some kinds }
  else if name = "format".toList then
    if draft.format.isSome then none
    else (format? value).map fun format ↦ { draft with format := some format }
  else if name = "seed".toList then
    if draft.seed.isSome then none
    else (seed? value).map fun seed ↦ { draft with seed := some seed }
  else none

/-- Takes the path of the metadata.  There is one path, and it is not empty. -/
def addPath? (draft : Draft) (path : Text) : Option Draft :=
  if draft.paths.isEmpty && !path.isEmpty then some { draft with paths := [path] } else none

def finish? (draft : Draft) : Option ExtractCommand :=
  match draft.paths with
  | [path] =>
    some ⟨path, draft.config, draft.kinds.getD TagKind.all, draft.format.getD .json, draft.seed⟩
  | _ => none

end Draft

def takesValue (name : Text) : Bool :=
  ["config".toList, "kind".toList, "format".toList, "seed".toList].contains name

/-- Whether an argument can be the value of the option before it. -/
def isValue (argument : Text) : Bool :=
  match argument with
  | '-' :: _ :: _ => false
  | _ => true

def readPaths (draft : Draft) (arguments : List Text) : Request :=
  match arguments.foldlM Draft.addPath? draft with
  | none => .misuse
  | some draft => (draft.finish?.map Request.extract).getD .misuse

def read (draft : Draft) : List Text → Request
  | [] => readPaths draft []
  | argument :: others =>
    match argument with
    | '-' :: '-' :: [] => readPaths draft others
    | '-' :: '-' :: option =>
      if option = "help".toList then .help
      else
        match option.span (· != '=') with
        | (name, _ :: value) =>
          match draft.setOption? name value with
          | some draft => read draft others
          | none => .misuse
        | (name, []) =>
          match others with
          | value :: others =>
            if takesValue name && isValue value then
              match draft.setOption? name value with
              | some draft => read draft others
              | none => .misuse
            else .misuse
          | [] => .misuse
    | '-' :: 'h' :: _ => .help
    | '-' :: _ :: _ => .misuse
    | _ =>
      match draft.addPath? argument with
      | some draft => read draft others
      | none => .misuse

end ExtractCommand

def Request.ofArguments (arguments : List Text) : Request :=
  match arguments with
  | [] => .misuse
  | argument :: others =>
    if argument = "extract".toList then ExtractCommand.read ⟨[], none, none, none, none⟩ others
    else if argument = "--version".toList then .version
    else if argument = "--help".toList || argument = "help".toList then .help
    else
      match argument with
      | '-' :: 'V' :: _ => .version
      | '-' :: 'h' :: _ => .help
      | _ => .misuse

def versionLine : Text := "paramdoc 0.1.0\n".toList

def usageLine : Text :=
  ("Usage: paramdoc extract [--config FILE] [--kind body|url|all] [--format json|yaml] ".toList ++
    "[--seed N] METADATA\n".toList)

namespace ExtractCommand

def loadFailure (what path : Text) : Outcome :=
  ⟨1, [], some ("Error: Failed to load ".toList ++ what ++ " from ".toList ++ path)⟩

def print (format : OutputFormat) (results : List EndpointParams) : Text :=
  let value := Json.array (results.map (·.toJson))
  match format with
  | .json => value.writePretty 0
  | .yaml => Yaml.write value

def loadConfig (command : ExtractCommand) (file : Text → Except FileFault Text) :
    Except DocError Config := do
  let config ← match command.configPath with
    | none => pure Config.standard
    | some path =>
      match file path with
      | .error fault => throw (.file fault)
      | .ok text => Config.ofYaml text
  return { config with exampleSeed := command.seed.getD config.exampleSeed }

def loadMetadata (file : Text → Except FileFault Text) (path : Text) : Except DocError Metadata :=
  match file path with
  | .error fault => .error (.file fault)
  | .ok text => (Metadata.ofText text).mapError fun _ ↦ .metadata

/-- Runs a request on the files it names; the conventions are loaded first. -/
def run (command : ExtractCommand) (file : Text → Except FileFault Text) : Outcome :=
  match command.loadConfig file with
  | .error _ => loadFailure "config".toList (command.configPath.getD [])
  | .ok config =>
    match loadMetadata file command.metadataPath with
    | .error _ => loadFailure "metadata".toList command.metadataPath
    | .ok metadata =>
      ⟨0, print command.format (extractAll metadata config command.kinds).1 ++ ['\n'], none⟩

end ExtractCommand

def Request.run (request : Request) (file : Text → Except FileFault Text) : Outcome :=
  match request with
  | .version => ⟨0, versionLine, none⟩
  | .help => ⟨0, usageLine, none⟩
  | .misuse => ⟨2, [], none⟩
  | .extract command => command.run file

end EndpointDocs
