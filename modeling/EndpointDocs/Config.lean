import EndpointDocs.Document
import EndpointDocs.Error
import EndpointDocs.ParamType.Sample
import EndpointDocs.RequestNaming
import EndpointDocs.Table
import EndpointDocs.Yaml.Document
import EndpointDocs.Yaml.Writer

/-!
# Configuration

The conventions that the search for documentation follows: which types mark entity controllers and
form requests, how request types are named, and the seed of sample values.  Every setting has a
default.
-/

namespace EndpointDocs

/-- The conventions of an application. -/
structure Config where
  /-- The type whose subtypes are entity controllers. -/
  entityController : Text
  /-- The static property of an entity controller that names its entity. -/
  entityProperty : Text
  /-- The types whose subtypes are form requests. -/
  formRequestBases : List Text
  requestNamespace : Text
  requestTemplates : List Text
  /-- The actions that handler methods stand for. -/
  actionSynonyms : Table Text
  exampleSeed : UInt64
deriving DecidableEq, Repr

namespace Config

def standard : Config where
  entityController := "IgnitionWolf\\API\\Controllers\\EntityController".toList
  entityProperty := "entity".toList
  formRequestBases :=
    ["Illuminate\\Foundation\\Http\\FormRequest".toList, "Dingo\\Api\\Http\\FormRequest".toList]
  requestNamespace := "App\\Http\\Requests".toList
  requestTemplates :=
    ["\x7bnamespace\x7d\\\x7bentity\x7d\\\x7baction\x7dRequest".toList,
      "\x7bnamespace\x7d\\\x7baction\x7d\x7bentity\x7dRequest".toList]
  actionSynonyms :=
    [("store".toList, "create".toList), ("destroy".toList, "delete".toList),
      ("index".toList, "list".toList), ("show".toList, "read".toList)]
  exampleSeed := defaultSeed

def naming (config : Config) : RequestNaming :=
  ⟨config.requestNamespace, config.requestTemplates⟩

def actionFor (config : Config) (method : Text) : Text :=
  (config.actionSynonyms.get? method).getD method

/-- Whether every template of a request type names the entity. -/
def isValid (config : Config) : Bool :=
  config.requestTemplates.all (Text.mentions (RequestNaming.placeholder "entity"))

def fieldNames : List Text :=
  ["entity_controller".toList, "entity_property".toList, "form_request_bases".toList,
    "request_namespace".toList, "request_templates".toList, "action_synonyms".toList,
    "example_seed".toList]

section Decode

variable {ν : Type} {m : Type → Type} [Monad m] [Document ν m]

def decodeTable (node : ν) : m (Table Text) := do
  let entries ← (← Document.entries node).mapM fun entry ↦ do
    return (entry.1, ← Document.text entry.2)
  return Table.ofEntries entries

/-- Reads the settings, with the defaults for those that are left out. -/
def decode (node : ν) : m Config := do
  let fields ← Document.fields fieldNames node
  return {
    entityController :=
      ← fields.withDefault "entity_controller".toList standard.entityController Document.text
    entityProperty :=
      ← fields.withDefault "entity_property".toList standard.entityProperty Document.text
    formRequestBases :=
      ← fields.withDefault "form_request_bases".toList standard.formRequestBases Document.texts
    requestNamespace :=
      ← fields.withDefault "request_namespace".toList standard.requestNamespace Document.text
    requestTemplates :=
      ← fields.withDefault "request_templates".toList standard.requestTemplates Document.texts
    actionSynonyms :=
      ← fields.withDefault "action_synonyms".toList standard.actionSynonyms decodeTable
    exampleSeed := ← fields.withDefault "example_seed".toList standard.exampleSeed Document.word }

end Decode

def ofYaml (s : Text) : Except DocError Config :=
  match Yaml.decode? decode s with
  | none => .error .yaml
  | some config => if config.isValid then .ok config else .error .templateWithoutEntity

def toJson (config : Config) : Json :=
  .object [
    ("entity_controller".toList, .text config.entityController),
    ("entity_property".toList, .text config.entityProperty),
    ("form_request_bases".toList, .array (config.formRequestBases.map .text)),
    ("request_namespace".toList, .text config.requestNamespace),
    ("request_templates".toList, .array (config.requestTemplates.map .text)),
    ("action_synonyms".toList,
      .object (config.actionSynonyms.map fun entry ↦ (entry.1, .text entry.2))),
    ("example_seed".toList, .int config.exampleSeed.toNat)]

def toYaml (config : Config) : Text :=
  Yaml.write config.toJson

end Config

end EndpointDocs
