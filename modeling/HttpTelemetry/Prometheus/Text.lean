import HttpTelemetry.Prometheus.Registry
import HttpTelemetry.Decimal.Grisu
/-!
# The text exposition of the registry

Each family is written in registration order: a `# HELP` line (the help text gets a final
period), a `# TYPE` line, then its samples; the text ends with `# EOF`. Every sample carries the
constant label `service` first; a bucket sample has `le` next, then the family's labels. A
histogram series writes its sum, its count and its cumulative bucket counts, the last bucket as
`le="+Inf"`. Floats are written in `Decimal.Notation.exposition`. Label values are written as
they are, without escaping.

Series live in a hash map, so their order in the text means nothing; `canonicalLines` splits
the text into lines and sorts each run of samples between two `#` lines, which gives every
registry one text.
-/

namespace HttpTelemetry.Prometheus

/-- A label set `{k="v",…}`. -/
def labelText (pairs : List (String × String)) : String :=
  "\x7b" ++ ",".intercalate (pairs.map fun (k, v) => k ++ "=\"" ++ v ++ "\"") ++ "\x7d"

/-- The `le` label of a bucket bound. -/
def boundText (b : Float) : String :=
  if b == maxFinite then "+Inf" else Decimal.expositionText b

/-- Running totals of a list. -/
def cumulative : List Nat → List Nat
  | [] => []
  | c :: cs => c :: (cumulative cs).map (c + ·)

/-- The sample lines of one histogram series. -/
def histogramLines (service name : String) (labels : List (String × String)) (h : Histogram) :
    List String :=
  let own := ("service", service) :: labels
  [name ++ "_sum" ++ labelText own ++ " " ++ Decimal.expositionText h.sum,
   name ++ "_count" ++ labelText own ++ " " ++ toString h.count] ++
  (h.bounds.zip (cumulative h.counts)).map fun (b, n) =>
    name ++ "_bucket" ++ labelText (("service", service) :: ("le", boundText b) :: labels) ++
      " " ++ toString n

/-- The header lines of a family. -/
def familyHeader (name help kind : String) : List String :=
  ["# HELP " ++ name ++ " " ++ help ++ ".", "# TYPE " ++ name ++ " " ++ kind]

/-- The lines of a histogram family. -/
def histogramFamily (service name help : String) (fam : Family Histogram) : List String :=
  familyHeader name help "histogram" ++
    (fam.map fun (key, h) => histogramLines service name (requestLabelNames.zip key) h).flatten

/-- The exposition text of the registry. -/
def Registry.text (r : Registry) : String :=
  let lines :=
    histogramFamily r.service "http_server_duration"
      "Histogram of request durations in milliseconds" r.durations ++
    familyHeader "http_server_active_requests" "Number of requests currently handled" "gauge" ++
    r.active.map (fun (key, v) => "http_server_active_requests" ++
      labelText (("service", r.service) :: activeLabelNames.zip key) ++ " " ++ toString v) ++
    histogramFamily r.service "http_server_request_size"
      "Histogram of request sizes in bytes" r.requestSizes ++
    histogramFamily r.service "http_server_response_size"
      "Histogram of response sizes in bytes" r.responseSizes ++
    ["# EOF"]
  String.join (lines.map (· ++ "\n"))

/-- The lines of a text: split at line feeds, a carriage return before a line feed dropped,
and no empty last line. -/
def textLines (text : String) : List String :=
  let parts := text.splitOn "\n"
  let parts := if parts.getLast? == some "" then parts.dropLast else parts
  parts.map fun p => if p.endsWith "\r" then String.ofList (p.toList.dropLast) else p

/-- Sorts each run of lines between two `#` lines, keeping the `#` lines in place. -/
def sortRuns (lines : List String) : List String :=
  let (done, run) := lines.foldl (fun (done, run) line =>
    if line.startsWith "#" then
      (done ++ run.mergeSort (fun a b => !decide (b < a)) ++ [line], [])
    else (done, run ++ [line])) ([], [])
  done ++ run.mergeSort (fun a b => !decide (b < a))

/-- The lines of the exposition, each run of samples sorted. -/
def Registry.canonicalLines (r : Registry) : List String := sortRuns (textLines r.text)

/-- The lines that do not depend on measured durations: no duration sums, and of the duration
buckets only `+Inf`, which counts every finite duration. -/
def clockFree (lines : List String) : List String :=
  lines.filter fun line =>
    !(line.startsWith "http_server_duration_sum" ||
      (line.startsWith "http_server_duration_bucket" && !(line.splitOn "le=\"+Inf\"").length > 1))

end HttpTelemetry.Prometheus
