import DalecHomebrew.Catalog.Request

/-!
# Validation of catalog sets

The parts of `ValidateCatalogSetPayload` in `internal/catalog/validate.go` that look
at the references to tap catalogs: the checks of one reference, and the agreement
of the references with the taps that the platform results reach.
-/

namespace DalecHomebrew.Catalog

open Foundation Foundation.GoString

def maxCatalogDocumentBytes : Int := 64 * 2 ^ 20
def maxAggregateCatalogBytes : Int := 256 * 2 ^ 20
def validateBoundedText (name value : String) (limit : Nat) (allowEmpty : Bool) :
    Except String Unit :=
  if (!allowEmpty ∧ isBlank value) ∨ limit < byteLength value ∨ hasControl value then
    .error (name ++ " is empty, overlong, or contains control characters")
  else .ok ()

/-- The source parses the URL a second time, with the same result. -/
def validateCatalogURL (net : NetLibrary) (value digest : String) : Except String Unit := do
  validateHTTPSURL net value false
  let parsed ← net.parseURL value
  if parsed.rawQuery ≠ "" then throw "catalog URL cannot contain a query"
  let want := catalogDocumentPathPrefix ++ trimPrefix digest "sha256:"
  if parsed.escapedPath ≠ want then
    throw ("catalog URL path " ++ quote parsed.escapedPath ++ " does not match digest path " ++
      quote want)

def validateCatalogReference (net : NetLibrary) (reference : CatalogReference) :
    Except String Unit :=
  joinErrors (
    nested "tap" (validateTapSource reference.tap) ++
    finding (reference.publishedAt == 0) "published_at is required" ++
    finding (reference.sequence == 0) "sequence must be positive" ++
    finding (reference.size ≤ 0 || maxCatalogDocumentBytes < reference.size)
      ("size " ++ decimalInt reference.size ++ " is outside 1.." ++
        decimalInt maxCatalogDocumentBytes) ++
    nested "sha256" (validateSHA256Digest reference.sha256) ++
    nested "url" (validateCatalogURL net reference.url reference.sha256))

/-- The taps that the closures of the results reach. -/
def reachedTaps (results : List PlatformResult) : List TapID :=
  (results.flatMap fun result => normalizedClosureTaps result.closure).dedup

/-- The agreement of reached taps and signed references, both ways. -/
def reachedTapFindings (payload : CatalogSetPayload) : List String :=
  let reached := reachedTaps payload.results
  let catalogTaps := (payload.catalogs.map fun reference => reference.tap.id).dedup
  ((sortByKey (fun tap => tap) reached).flatMap fun tap =>
    finding (!catalogTaps.contains tap)
      ("reached tap " ++ quote tap ++ " has no signed catalog reference")) ++
  (sortByKey (fun tap => tap) catalogTaps).flatMap fun tap =>
    finding (!reached.contains tap)
      ("catalog reference for tap " ++ quote tap ++ " is not reached by any result")

/-- The agreement of references and results is an equality of sets. -/
theorem reachedTapFindings_eq_nil {payload : CatalogSetPayload} :
    reachedTapFindings payload = [] ↔
      ∀ tap, tap ∈ payload.catalogs.map (fun reference => reference.tap.id) ↔
        ∃ result ∈ payload.results, tap ∈ normalizedClosureTaps result.closure := by
  simp only [reachedTapFindings, reachedTaps, List.append_eq_nil_iff, List.flatMap_eq_nil_iff,
    mem_sortByKey, finding_eq_nil, Bool.not_eq_false', List.contains_iff_mem, List.mem_dedup,
    List.mem_flatMap]
  constructor
  · rintro ⟨covered, reached⟩ tap
    exact ⟨reached tap, covered tap⟩
  · intro same
    exact ⟨fun tap => (same tap).mpr, fun tap => (same tap).mp⟩

end DalecHomebrew.Catalog
