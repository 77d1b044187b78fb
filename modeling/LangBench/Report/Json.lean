import LangBench.Report.Basic

/-!
# Reports as JSON

* `Json.quote`: a text as a JSON string;
* `Report.json`: a report as a compact JSON object, its fields in the order of their declaration.
-/

namespace LangBench

namespace Json

/-- The escape of a character in a JSON string: a quote, a backslash and the control characters
below the space are escaped, all else stands for itself. -/
def escape (c : Char) : String :=
  match c with
  | '"' => "\\\""
  | '\\' => "\\\\"
  | '\x08' => "\\b"
  | '\t' => "\\t"
  | '\n' => "\\n"
  | '\x0c' => "\\f"
  | '\r' => "\\r"
  | c =>
    if c.toNat < 0x20 then
      "\\u00" ++ String.ofList [Nat.digitChar (c.toNat / 16), Nat.digitChar (c.toNat % 16)]
    else String.singleton c

/-- A text as a JSON string. -/
def quote (s : String) : String :=
  "\"" ++ String.join (s.toList.map escape) ++ "\""

/-- A JSON object with the values given as JSON. -/
def object (fields : List (String × String)) : String :=
  "\x7b" ++ ",".intercalate (fields.map fun (key, value) => quote key ++ ":" ++ value) ++ "\x7d"

/-- A JSON list with the values given as JSON. -/
def array (values : List String) : String :=
  "[" ++ ",".intercalate values ++ "]"

end Json

/-- A duration as JSON. -/
def Duration.json (d : Duration) : String :=
  Json.object [("secs", toString d.seconds), ("nanos", toString d.subsecNanos)]

/-- A measurement as JSON. -/
def Measurement.json (m : Measurement) : String :=
  Json.object [("total", m.total.json), ("laps", Json.array (m.laps.map Duration.json))]

/-- An outcome as JSON. -/
def Outcome.json : Outcome → String
  | .completed rehearsal measurement =>
    Json.object [("Completed", Json.object
      [("rehearsal", (rehearsal.map Duration.json).getD "null"),
       ("measurement", measurement.json)])]
  | .failed reason => Json.object [("Failed", Json.object [("reason", Json.quote reason)])]

/-- A target as JSON. -/
def Target.json : Target → String
  | .sample label => Json.object [("Sample", Json.quote label)]
  | .total => Json.quote "Total"

/-- A kind as JSON. -/
def Kind.json : Kind → String
  | .sample => Json.quote "Sample"
  | .classifier => Json.quote "Classifier"

/-- A mode as JSON. -/
def Mode.json : Mode → String
  | .perSample => Json.quote "PerSample"
  | .total => Json.quote "Total"

/-- A report as JSON. -/
def Report.json (r : Report) : String :=
  Json.object
    [("label", Json.quote r.label), ("strategy", Json.quote r.strategy), ("kind", r.kind.json),
     ("mode", r.mode.json), ("target", r.target.json), ("iterations", toString r.iterations),
     ("outcome", r.outcome.json)]

end LangBench
