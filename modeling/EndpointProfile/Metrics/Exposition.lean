import EndpointProfile.Decimal.Plain
import EndpointProfile.Metrics.Basic

/-! Metrics as text: a heading for each family, and a line for each of its samples. -/
namespace EndpointProfile.Metrics

/-- Names and values of labels, in the order of the names. -/
abbrev Labels := List (Text × Text)

/-- A line of a family: what is put after its name, its labels, and its value. -/
structure Sample where
  suffix : Text
  labels : Labels
  value : Text

structure Family where
  name : Text
  help : Text
  kind : Text
  samples : List Sample

private def escapeLabel (t : Text) : Text :=
  t.flatMap fun c =>
    if c = '\\' then "\\\\" else if c = '"' then "\\\"" else if c = '\n' then "\\n" else [c]

private def labelsText (labels : Labels) : Text :=
  if labels.isEmpty then []
  else
    "\x7b" ++ Text.join "," (labels.map fun (k, v) => k ++ "=\"" ++ escapeLabel v ++ "\"") ++ "\x7d"

private def lineText (name : Text) (s : Sample) : Text :=
  name ++ s.suffix ++ labelsText s.labels ++ " " ++ s.value ++ "\n"

def Family.text (f : Family) : Text :=
  "# HELP " ++ f.name ++ " " ++ f.help ++ "\n# TYPE " ++ f.name ++ " " ++ f.kind ++ "\n" ++
    f.samples.flatMap (lineText f.name)

/-- Series come in the order of their label values. -/
private def before (a b : Labels) : Bool :=
  match a, b with
  | (_, x) :: a, (_, y) :: b => Text.precedes x y || (x = y && before a b)
  | _, _ => true

private def sorted {L α : Type} (pairs : L → Labels) (s : Series L α) : List (Labels × α) :=
  (s.map fun (l, a) => (pairs l, a)).mergeSort fun x y => before x.1 y.1

private def single {L α : Type} (pairs : L → Labels) (shown : α → Text) (s : Series L α) :
    List Sample :=
  (sorted pairs s).map fun (labels, a) => ⟨[], labels, shown a⟩

/-- Each range holds all that is below its end, and the last one holds everything. -/
private def histogramSamples (labels : Labels) (h : Histogram) : List Sample :=
  let bucket (bound : Text) (n : Nat) : Sample :=
    ⟨"_bucket", labels ++ [(("le" : Text), bound)], Text.ofNat n⟩
  let totals := (h.counts.foldl (fun (l, n) c => (l ++ [n + c], n + c)) (([] : List Nat), 0)).1
  (bounds.zip totals).map (fun (b, n) => bucket (Decimal.plain b) n) ++
    [bucket "+Inf" h.count, ⟨"_sum", labels, Decimal.plain h.sum⟩,
      ⟨"_count", labels, Text.ofNat h.count⟩]

def fullName (space name : Text) : Text :=
  if space.isEmpty then name else space ++ "_" ++ name

def Traffic.families (space : Text) (t : Traffic) : List Family :=
  [ { name := fullName space "http_requests_total"
      help := "Total number of HTTP requests"
      kind := "counter"
      samples :=
        single
          (fun l => [("endpoint", l.endpoint), ("method", l.method), ("status", Text.ofNat l.status)])
          Text.ofNat t.requests },
    { name := fullName space "http_request_duration_seconds"
      help := "HTTP request duration in seconds"
      kind := "histogram"
      samples :=
        (sorted (fun l => [("endpoint", l.endpoint), ("method", l.method)]) t.durations).flatMap
          fun (labels, h) => histogramSamples labels h },
    { name := fullName space "http_requests_in_progress"
      help := "Number of HTTP requests currently being processed"
      kind := "gauge"
      samples := single (fun m => [("method", m)]) (fun n => Decimal.plain n.toFloat) t.inProgress },
    { name := fullName space "errors_total"
      help := "Total number of errors"
      kind := "counter"
      samples :=
        single (fun l => [("operation", l.operation), ("type", l.kind)]) Text.ofNat t.errors } ]

def Usage.families (u : Usage) : List Family :=
  [ { name := "profile_key_lookups_total"
      help := "Total number of single-key lookups"
      kind := "counter"
      samples := single (fun l => [("key", l.key), ("status", l.status)]) Text.ofNat u.lookups },
    { name := "profile_renders_total"
      help := "Total number of full profile renders"
      kind := "counter"
      samples := single (fun f => [("format", f)]) Text.ofNat u.renders } ]

/-- The families that have samples, in the order of their names. -/
def expose (families : List Family) : Text :=
  ((families.filter fun f => !f.samples.isEmpty).mergeSort fun f g =>
    !Text.precedes g.name f.name).flatMap Family.text

end EndpointProfile.Metrics
