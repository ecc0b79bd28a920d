import TypedQuery.Code.Unit

/-! Settings of the generator. -/
namespace TypedQuery

/-- Where a build looks for queries, below the manifest's directory, and the name of its index. -/
structure BuildSettings where
  queriesDir : String := "queries"
  indexFile : String := "dipper_queries.rs"
  deriving DecidableEq, Repr

structure Settings where
  codegen : CodegenSettings := {}
  build : BuildSettings := {}
  deriving DecidableEq, Repr

end TypedQuery
