import DalecHomebrew.LLBUtil.BottleStates

/-!
# The prepare phase

`PrepareV2` of `internal/materializer/v2_prepare.go`: every bottle of the install
order is copied into a fresh file and verified; then the Formula sources are staged
and the evidence is written.

The directory of prepared bottles is explicit state, since `copyPreparedBottleV2`
refuses a file that is there already.  What the operating system answers, the verifier
of one bottle and the phase after the loop are a `Host`.
-/

namespace DalecHomebrew.Materializer

open Catalog (Bytes)
open Foundation Foundation.GoString Resolution

/-- The part of the configuration that the loop over the bottles reads. -/
structure PrepareV2Config where
  record : RecordV2
  bottlesDir : String
  fetchEvidenceDir : String := ""
  preparedRoot : String

/-- A file that was opened for reading. -/
structure SourceFile where
  regular : Bool
  size : Int
  content : Bytes

/-- The operations whose result the model does not compute. -/
structure Host (Result Evidence : Type) where
  /-- The policies, directories and identities that are checked before the first bottle. -/
  checkEnvironment : PrepareV2Config → Except String Unit
  /-- The check of the context before a round of the loop. -/
  continueWith : Nat → Except String Unit
  /-- `readAndVerifyFetchEvidence` for the HTTPS bottle of a node. -/
  readAndVerifyFetchEvidence : String → NodeV2 → Except String Unit
  /-- A bottle in the input directory, opened and examined. -/
  openBottle : String → Except String SourceFile
  createFile : String → Except String Unit
  copyFile : String → Except String Unit
  /-- `VerifyNodeV2` on the copied bytes and the comparison of its result with the record, after
  the results of the earlier bottles. -/
  verifyBottle : List Result → NodeV2 → Bytes → Except String Result
  /-- The staged sources, the trust store and the evidence file. -/
  finish : List (FormulaID × Result) → Except String Evidence

/-- The directory of prepared bottles: the bytes of every file. -/
abbrev BottleFiles := Table String Bytes

section Bottle

variable {Result Evidence : Type} (host : Host Result Evidence) (cfg : PrepareV2Config)

/-- The state of the loop over the install order. -/
structure Preparation (Result : Type) where
  files : BottleFiles
  verified : List (FormulaID × Result) := []

end Bottle

/-! ## What a round does -/

section Round

variable {Result Evidence : Type} {host : Host Result Evidence} {cfg : PrepareV2Config}
  {filename : String} {expectedSize : Int} {entry : FormulaID × Nat}

end Round

end DalecHomebrew.Materializer
