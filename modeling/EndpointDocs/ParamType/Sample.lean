import EndpointDocs.ParamType
import EndpointDocs.Json
import EndpointDocs.Random.Draw

/-!
# Sample values

A value made up for a parameter without an example.  It is drawn from a stream that a seed
determines, so the same requests in the same order give the same values.
-/

namespace EndpointDocs

def defaultSeed : UInt64 := 1

def sampleWords : List String :=
  ["alpha", "amet", "dolor", "ipsum", "lorem", "magnam", "quia", "sit", "tempora", "veniam"]

def sampleFiles : List String :=
  ["avatar.png", "document.pdf", "export.csv", "notes.txt"]

def sampleWord (s : Random.Stream) : Text × Random.Stream :=
  let (word, s) := Random.choose "example" sampleWords s
  (word.toList, s)

namespace ParamType

/-- A sample value of a type.  An array has two items, and the one name of a typed object is drawn
before its value. -/
def sample : ParamType → Random.Stream → Json × Random.Stream
  | string, s =>
    let (word, s) := sampleWord s
    (.text word, s)
  | integer, s =>
    let (n, s) := Random.below 20 s
    (.int (n + 1 : Nat), s)
  | number, s =>
    let (x, s) := Random.cents s
    (.float x, s)
  | boolean, s =>
    let (b, s) := Random.coin s
    (.bool b, s)
  | file, s =>
    let (name, s) := Random.choose "file.txt" sampleFiles s
    (.text name.toList, s)
  | object, s => (.object [], s)
  | array, s =>
    let (first, s) := sampleWord s
    let (second, s) := sampleWord s
    (.array [.text first, .text second], s)
  | arrayOf item, s =>
    let (first, s) := item.sample s
    let (second, s) := item.sample s
    (.array [first, second], s)
  | objectOf value, s =>
    let (name, s) := sampleWord s
    let (v, s) := value.sample s
    (.object [(name, v)], s)

end ParamType

end EndpointDocs
