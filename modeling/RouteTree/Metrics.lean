import RouteTree.SortedMap

/-!
# Metrics

Every request that an entry served is sampled under the entry's method and path and the
status it was answered with. A sample counts once as a request and once as a duration;
durations themselves are not kept.
-/

namespace RouteTree

/-- One served request. -/
structure Sample where
  method : String
  route : String
  status : Nat
  deriving DecidableEq, Repr

namespace Sample

/-- The counter of served requests. -/
def requests : String := "rutt_requests_total"

/-- The histogram of their durations. -/
def durations : String := "rutt_request_duration_seconds"

/-- The gauge of the entries that are served. -/
def routes : String := "rutt_routes_registered"

/-- A metric with the labels of a sample. -/
def series (metric : String) (s : Sample) : String :=
  metric ++ " method=" ++ s.method ++ " route=" ++ s.route ++ " status=" ++ toString s.status

end Sample

/-- Counts of samples by series. -/
abbrev Counts := SortedMap String Nat

namespace Counts

/-- Count one more in a series. -/
def increment (c : Counts) (series : String) : Counts :=
  c.insert series ((c.get? series).getD 0 + 1)

/-- Count a sample as a request and as a duration. -/
def record (c : Counts) (s : Sample) : Counts :=
  (c.increment (s.series Sample.requests)).increment (s.series Sample.durations)

/-- The counts of samples. -/
def ofSamples (samples : List Sample) : Counts := samples.foldl record SortedMap.empty

end Counts

end RouteTree
