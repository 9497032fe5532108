/-!
# Measurements

Every statement that an engine takes is counted twice: under its table, kind and outcome, and,
with its latency, under its table and kind. Latencies are sorted into buckets, and one that is not
a number is in none: it has a sample, but does not count for it.
-/

namespace RowMapper

/-- One measured statement. `timed` says whether its latency is a number. -/
structure Observation where
  table : String
  verb : String
  status : String
  timed : Bool
  deriving DecidableEq

/-- What a count is about: latencies have no outcome. -/
structure Sample where
  table : String
  verb : String
  status : Option String
  deriving DecidableEq

namespace Sample

/-- The order of samples: latencies first, then by table, kind and outcome. -/
def before (a b : Sample) : Bool :=
  if a.status.isSome = b.status.isSome then
    a.table < b.table ||
      (a.table = b.table &&
        (a.verb < b.verb || (a.verb = b.verb && a.status.getD "" < b.status.getD "")))
  else a.status.isNone

end Sample

namespace Observation

/-- The samples that a statement is about. -/
def samples (o : Observation) : List Sample :=
  [⟨o.table, o.verb, some o.status⟩, ⟨o.table, o.verb, none⟩]

/-- Whether a statement counts for a sample. -/
def countsFor (o : Observation) (sample : Sample) : Bool :=
  o.samples.contains sample && (sample.status.isSome || o.timed)

end Observation

/-- Counts of measured statements. -/
structure Metrics where
  observations : List Observation
  deriving DecidableEq

namespace Metrics

/-- Counts of nothing. -/
def empty : Metrics := ⟨[]⟩

/-- Count one more statement. -/
def observe (metrics : Metrics) (observation : Observation) : Metrics :=
  ⟨metrics.observations ++ [observation]⟩

/-- How many statements count for a sample. -/
def countOf (metrics : Metrics) (sample : Sample) : Nat :=
  metrics.observations.countP (·.countsFor sample)

/-- Put a sample into a list in order, unless it is there. -/
def insertSample (sample : Sample) : List Sample → List Sample
  | [] => [sample]
  | other :: rest =>
      if sample = other then other :: rest
      else if sample.before other then sample :: other :: rest
      else other :: insertSample sample rest

/-- All samples in order. -/
def samples (metrics : Metrics) : List Sample :=
  (metrics.observations.flatMap Observation.samples).foldr insertSample []

end Metrics

end RowMapper
