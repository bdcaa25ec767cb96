import AppLinks.Settings.Basic

/-!
Settings as JSON values.

Fields that are not known are passed over and missing ones have their usual value. In an array
the fields stand in the order of `fieldNames`.
-/

namespace AppLinks

open Json (Value ShapeError)

namespace RouterConfig

def fieldNames : List String :=
  ["use_start_anchors", "use_normalized_paths", "additional_host_pattern"]

def setField (c : RouterConfig) (name : String) (v : Value) : Except ShapeError RouterConfig :=
  match name with
  | "use_start_anchors" => do return { c with useStartAnchors := ← v.asBool }
  | "use_normalized_paths" => do return { c with useNormalizedPaths := ← v.asBool }
  | "additional_host_pattern" => do return { c with additionalHostPattern := ← v.asOptionalString }
  | _ => .ok c

def ofJson (v : Value) : Except ShapeError RouterConfig :=
  v.readRecord .routerConfig fieldNames setField {}

def toJson (c : RouterConfig) : Value :=
  .ofFields [("use_start_anchors", .bool c.useStartAnchors),
    ("use_normalized_paths", .bool c.useNormalizedPaths),
    ("additional_host_pattern", (c.additionalHostPattern.map Value.string).getD .null)]

end RouterConfig

namespace Settings

def fieldNames : List String := ["debug", "log_level", "router"]

def setField (s : Settings) (name : String) (v : Value) : Except ShapeError Settings :=
  match name with
  | "debug" => do return { s with debug := ← v.asBool }
  | "log_level" => do return { s with logLevel := ← v.asString }
  | "router" => do return { s with router := ← RouterConfig.ofJson v }
  | _ => .ok s

def ofJson (v : Value) : Except ShapeError Settings :=
  v.readRecord .settings fieldNames setField {}

def toJson (s : Settings) : Value :=
  .ofFields [("debug", .bool s.debug), ("log_level", .string s.logLevel),
    ("router", s.router.toJson)]

end Settings

end AppLinks
