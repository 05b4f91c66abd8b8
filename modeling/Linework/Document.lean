import Linework.Document.Format
import Linework.Document.Json.Print
import Linework.Document.Json.Read
import Linework.Document.Plain
import Linework.Document.Toml.Print
import Linework.Document.Toml.Read
import Linework.Document.Utf8
import Linework.Document.Xml.Print
import Linework.Document.Xml.Read
import Linework.Document.Yaml.Print
import Linework.Document.Yaml.Read

/-!
# Documents of data

Data as texts in one of several formats. Formats that need a map at the top are given the datum under a name
if it is none.
-/

namespace Linework.Document

open Linework.Text

/-- The fault of a format that is not known, by its name if it has one. -/
def unknownFormat (name : Option String) : Fault :=
  .unknownFormat (name.elim "None" quoted)

/-- The root of a document: the datum itself if it is a map with one map in it, and else the datum under a
name. -/
def xmlRoot (rootName : String) : Datum → List (Datum × Datum)
  | .dict [(key, .dict inner)] => [(key, .dict inner)]
  | other => [(.text rootName, other)]

/-- Write plain data. -/
def writePlain (format : Format) (isPretty : Bool) (rootName : String) (datum : Datum) :
    Except Fault String :=
  match format, datum with
  | .json, datum => Json.write isPretty datum
  | .yaml, datum => Yaml.write datum
  | .toml, .dict entries => Toml.write (.dict entries)
  | .toml, datum => Toml.write (.dict [(.text rootName, datum)])
  | .xml, datum => Xml.write isPretty (xmlRoot rootName datum)

/-- Write a datum in the format of a name. -/
def write (formatName : Option String) (isPretty : Bool) (rootName : String) (datum : Datum) :
    Except Fault String := do
  let plain ← datum.toPlain
  match formatName.bind Format.ofName? with
  | some format => writePlain format isPretty rootName plain
  | none => throw (unknownFormat formatName)

/-- Read a text in a format. -/
def readAs (format : Format) (text : String) : Except Fault Datum :=
  match format with
  | .json => Json.read text
  | .yaml => Yaml.read text
  | .toml => Toml.read text
  | .xml => Xml.read text

/-- Read a text in the format of a name. Without a name the format is told from the path of the text's file
or from the text. -/
def read (formatName path : Option String) (text : String) : Except Fault Datum :=
  let format? :=
    match formatName with
    | none | some "" => Format.detect? path (some text)
    | some name => Format.ofName? name
  match format? with
  | some format => readAs format text
  | none => .error (unknownFormat formatName)

end Linework.Document
