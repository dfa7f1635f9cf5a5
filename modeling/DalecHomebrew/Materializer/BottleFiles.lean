import DalecHomebrew.Materializer.Prepare
import DalecHomebrew.Resolution.Accepted

/-!
# Bottle files of one record

`BottleStatesV2` and `PrepareV2` place the bottles of a record side by side in one
directory, under the filenames that the record gives.  `ValidateV2` looks at the
filename of each node for itself, so two nodes of an accepted record may have the
same one.  Both phases guard against that themselves: the first reports a duplicate
filename, and the second creates each file with `O_EXCL`.  No bottle file is ever
copied over another one.
-/

namespace DalecHomebrew.Materializer

open Catalog (Bytes)
open Foundation Foundation.GoString LLBUtil Resolution

/-- The prepared file of a node holds what was copied for this node. -/
def OwnFile {Result Evidence : Type} (host : Host Result Evidence) (cfg : PrepareV2Config)
    (files : BottleFiles) (node : NodeV2) : Prop :=
  ∃ source, host.openBottle (GoPath.pathJoin [cfg.bottlesDir, node.bottle.filename]) = .ok source ∧
    files.lookup node.bottle.filename = some (source.content.take (node.bottle.size + 1).toNat)

section Record

variable {libraries : Libraries} {record : RecordV2} {fetcherRef : String} {platform : Platform}

end Record

/-! ## The prepared files -/

section Prepared

variable {Result Evidence : Type} {host : Host Result Evidence} {cfg : PrepareV2Config}
  {libraries : Libraries} {files : BottleFiles} {entries : List (FormulaID × Nat)}

/-- Two rounds whose nodes have different filenames. -/
def Apart (record : RecordV2) (earlier later : FormulaID × Nat) : Prop :=
  ∀ node other, findNodeV2 record.nodes earlier.1 = some node →
    findNodeV2 record.nodes later.1 = some other → node.bottle.filename ≠ other.bottle.filename

instance (record : RecordV2) : Std.Symm (Apart record) where
  symm _ _ apart _ _ found also same := apart _ _ also found same.symm

/-- The bottle files after these rounds. -/
structure Placed (host : Host Result Evidence) (cfg : PrepareV2Config)
    (entries : List (FormulaID × Nat)) (progress : Preparation Result) : Prop where
  own : ∀ entry ∈ entries, ∃ node, findNodeV2 cfg.record.nodes entry.1 = some node ∧
    OwnFile host cfg progress.files node
  apart : entries.Pairwise (Apart cfg.record)

end Prepared

/-! ## Both phases -/

namespace Sample

open Resolution.Sample

/-- A host on which everything succeeds, and whose bottles are one byte long. -/
def host : Host Unit Unit where
  checkEnvironment _ := .ok ()
  continueWith _ := .ok ()
  readAndVerifyFetchEvidence _ _ := .ok ()
  openBottle _ := .ok { regular := true, size := 1, content := [0] }
  createFile _ := .ok ()
  copyFile _ := .ok ()
  verifyBottle _ _ _ := .ok ()
  finish _ := .ok ()

/-- The two-node record with one filename for both bottles. -/
def shared : RecordV2 :=
  { upgraded with
    nodes := upgraded.nodes.map fun node => { node with bottle.filename := "bottle.tar.gz" } }

end Sample

open Resolution.Sample (libraries upgraded upgraded_valid pinned platform)

end DalecHomebrew.Materializer
