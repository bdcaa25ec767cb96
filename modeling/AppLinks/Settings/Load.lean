import AppLinks.Json.Parse
import AppLinks.Settings.Override
import AppLinks.Settings.Record
import AppLinks.Text.Utf8
import AppLinks.Toml.Parse

/-!
Settings from texts, from files and from an environment.

What a text says is laid over the usual settings, and the variables of an environment go over
both. Whatever is loaded is valid.
-/

namespace AppLinks

/-- A file that may be missing. -/
structure SettingsFile where
  path : String
  bytes : Option (List UInt8)

namespace Settings

def readFormat (format : Format) (text : String) : Except ConfigFault Json.Value :=
  match format with
  | .json => match Json.parse text with
    | .ok v => .ok v
    | .error e => .error (.malformed .json e.message)
  | .toml => match Toml.parse text with
    | some v => .ok v.toJson
    | none => .error (.malformed .toml "not a document")

/-- The usual settings with a value laid over them. -/
def ofOverlay (format : Format) (v : Json.Value) : Except ConfigFault Settings :=
  match ofJson ((({} : Settings).toJson).overlay v) with
  | .ok s => .ok s
  | .error e => .error (.misshapen format e)

/-- The settings of a text, not yet validated. -/
def decodeText (format : Format) (text : String) : Except ConfigFault Settings := do
  ofOverlay format (← readFormat format text)

def readFile (format : Format) (file : SettingsFile) : Except ConfigFault String :=
  match file.bytes with
  | none => .error (.unreadable format file.path .missing)
  | some bytes => match Text.Utf8.decode? bytes with
    | some text => .ok (String.ofList text)
    | none => .error (.unreadable format file.path .notText)

def validated (s : Settings) : Except LinkError Settings := do
  s.validate
  return s

def ofText (format : Format) (text : String) : Except LinkError Settings := do
  validated (← (decodeText format text).mapError .configuration)

def ofFile (format : Format) (file : SettingsFile) : Except LinkError Settings := do
  ofText format (← (readFile format file).mapError .configuration)

/-- The settings of a file, which have to be valid by themselves, and of an environment. -/
def ofFileAndEnvironment (format : Format) (file : SettingsFile) (environment : Params) :
    Except LinkError Settings := do
  validated ((← ofFile format file).override environment)

def ofEnvironment (environment : Params) : Except LinkError Settings :=
  validated (({} : Settings).override environment)

end Settings

end AppLinks
