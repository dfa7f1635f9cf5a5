import DalecHomebrew.Catalog.Types
import DalecHomebrew.Foundation.Container
import DalecHomebrew.Foundation.GoString

/-!
# Core Formula metadata

The parts of `internal/homebrew/metadata` that closure computation reads: the
normalized Formula records, the target-specific overlays, and the lookup of a
name in the authenticated core catalog.  The evidence about a snapshot of that
catalog has the fields that a resolution records.
-/

namespace DalecHomebrew.Homebrew.Metadata

open Foundation Foundation.GoString

/-! ## Errors -/

/-- The sentinel errors that lookups and bottle selection wrap. -/
inductive Sentinel where
  | invalidFormulaName
  | formulaNotFound
  | versionedFormulaNotExplicit
  | outOfCore
  | bottleUnavailable
  | formulaDisabled
deriving DecidableEq

def Sentinel.text : Sentinel → String
  | .invalidFormulaName => "invalid Formula name"
  | .formulaNotFound => "Formula not found"
  | .versionedFormulaNotExplicit => "versioned Formula must be an explicit canonical name"
  | .outOfCore => "Formula identity is outside homebrew/core"
  | .bottleUnavailable => "current stable bottle metadata is unavailable"
  | .formulaDisabled => "Formula is disabled"

/-- An error chain: a sentinel or a plain text, possibly wrapped in context. -/
inductive Failure where
  | sentinel (error : Sentinel)
  | text (message : String)
  | wrapped (before : String) (cause : Failure) (after : String)
deriving DecidableEq

def Failure.message : Failure → String
  | .sentinel error => error.text
  | .text message => message
  | .wrapped before cause after => before ++ cause.message ++ after

/-- `errors.Is` against a sentinel. -/
def Failure.is (error : Sentinel) : Failure → Bool
  | .sentinel raised => raised == error
  | .text _ => false
  | .wrapped _ cause _ => cause.is error

/-- `LookupError`: the requested name and the optional target around the cause. -/
def lookupError (name target : String) (cause : Failure) : Failure :=
  if target = "" then .wrapped ("Formula " ++ quote name ++ ": ") cause ""
  else .wrapped ("Formula " ++ quote name ++ " targets " ++ quote target ++ ": ") cause ""

/-! ## Records -/

structure BottleFile where
  tag : String
  cellar : String
  url : String
  sha256 : String
deriving DecidableEq

structure Bottle where
  rebuild : Int
  rootURL : String
  files : List BottleFile
deriving DecidableEq

structure Variation where
  tag : String
  dependencies : List String := []
  overridesDependencies : Bool := false
  kegOnly : Bool := false
  overridesKegOnly : Bool := false
deriving DecidableEq

/-- The fields of a normalized core Formula that resolution reads. -/
structure Formula where
  name : String
  fullName : String
  license : String := ""
  stableVersion : String
  revision : Int
  versionScheme : Int
  kegOnly : Bool := false
  disabled : Bool := false
  dependencies : List String := []
  variations : List Variation := []
  bottle : Option Bottle := none
deriving DecidableEq

inductive MatchKind where
  | canonical
  | alias
  | oldName
  | migration

/-- The result of a lookup. -/
structure Match where
  requested : String
  canonical : String
  kind : MatchKind
  formula : Formula

/-- `Bottle.File`: the exact tag, or the portable `all` tag. -/
def Bottle.file (bottle : Bottle) (tag : String) : Option BottleFile :=
  match bottle.files.find? fun file => file.tag == tag with
  | some file => some file
  | none => if tag = "all" then none else bottle.files.find? fun file => file.tag == "all"

/-- `Formula.DependenciesFor`: the first override of the tag replaces the list. -/
def Formula.dependenciesFor (formula : Formula) (tag : String) : List String :=
  match formula.variations.find? fun variation =>
      variation.tag == tag && variation.overridesDependencies with
  | some variation => variation.dependencies
  | none => formula.dependencies

def Formula.kegOnlyFor (formula : Formula) (tag : String) : Bool :=
  match formula.variations.find? fun variation =>
      variation.tag == tag && variation.overridesKegOnly with
  | some variation => variation.kegOnly
  | none => formula.kegOnly

def Formula.bottleFor (formula : Formula) (tag : String) : Except Failure BottleFile :=
  match formula.bottle with
  | none => .error (.wrapped "" (.sentinel .bottleUnavailable) (" for " ++ quote formula.name))
  | some bottle =>
    match bottle.file tag with
    | some file => .ok file
    | none =>
      .error (.wrapped "" (.sentinel .bottleUnavailable)
        (" for " ++ quote formula.name ++ " and tag " ++ quote tag))

/-! ## Lookup -/

/-- Where an authenticated tap migration ends. -/
structure MigrationResolution where
  canonical : String := ""
  externalTarget : String := ""

/-- The indexes of a parsed core catalog that lookups read. -/
structure Catalog where
  canonical : Table String Formula
  aliases : Table String String := ∅
  oldNames : Table String String := ∅
  resolvedMigrations : Table String MigrationResolution := ∅

/-- The characters that `formulaNamePattern` allows after the first one. -/
def isNameCharacter (character : Char) : Bool :=
  ('a' ≤ character ∧ character ≤ 'z') || ('0' ≤ character ∧ character ≤ '9') ||
    "+_.@-".toList.contains character

def validateSimpleName (name : String) : Except Failure Unit :=
  match name.toList with
  | first :: rest =>
    if (('a' ≤ first ∧ first ≤ 'z') ∨ ('0' ≤ first ∧ first ≤ '9')) ∧
        rest.all isNameCharacter then
      .ok ()
    else .error (.wrapped "" (.sentinel .invalidFormulaName) (" " ++ quote name))
  | [] => .error (.wrapped "" (.sentinel .invalidFormulaName) (" " ++ quote name))

/-- `Catalog.match`. -/
def Catalog.matched (catalog : Catalog) (requested canonical : String) (kind : MatchKind) :
    Except Failure Match :=
  match catalog.canonical.lookup canonical with
  | none => .error (lookupError requested canonical (.sentinel .formulaNotFound))
  | some formula =>
    if formula.disabled then
      .error (lookupError requested canonical (.sentinel .formulaDisabled))
    else if formula.bottle.isNone then
      .error (lookupError requested canonical (.sentinel .bottleUnavailable))
    else .ok { requested, canonical, kind, formula }

/--
`Catalog.Lookup`.  A name with `@` must be canonical; every other name may also
be an alias, an old name or a migrated name, in this order.
-/
def Catalog.lookup (catalog : Catalog) (name : String) : Except Failure Match :=
  match validateSimpleName name with
  | .error cause => .error (lookupError name "" cause)
  | .ok _ =>
    match catalog.canonical.lookup name with
    | some formula => catalog.matched name formula.name .canonical
    | none =>
      if containsChar name '@' then
        .error (lookupError name "" (.sentinel .versionedFormulaNotExplicit))
      else
        match catalog.aliases.lookup name, catalog.oldNames.lookup name,
          catalog.resolvedMigrations.lookup name with
        | some canonical, _, _ => catalog.matched name canonical .alias
        | none, some canonical, _ => catalog.matched name canonical .oldName
        | none, none, some resolved =>
          if resolved.externalTarget ≠ "" then
            .error (lookupError name resolved.externalTarget (.sentinel .outOfCore))
          else catalog.matched name resolved.canonical .migration
        | none, none, none => .error (lookupError name "" (.sentinel .formulaNotFound))

/-! ## Snapshots -/

structure SignatureInfo where
  keyID : String
  algorithm : String
  verified : Bool
  protectedDigest : String := ""
  signatureDigest : String := ""
deriving DecidableEq

structure DocumentInfo where
  url : String := ""
  envelopeDigest : String := ""
  generatedAtSource : String := ""
  signatures : List SignatureInfo := []

/-- The identity and the freshness evidence of a pair of core documents. -/
structure SnapshotInfo where
  digest : String
  formulaDigest : String
  migrationDigest : String
  generatedAt : Catalog.Time
  fetchedAt : Catalog.Time
  formula : DocumentInfo
  migrations : DocumentInfo

end DalecHomebrew.Homebrew.Metadata
