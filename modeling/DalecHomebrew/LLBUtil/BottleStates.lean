import DalecHomebrew.Resolution.RecordV2

/-!
# The bottle inputs of a V2 build

`BottleStatesV2` of `internal/llbutil/v2.go`: one file copy for every bottle of the
install order, from the registry blob, the fetcher's output or a build-local input,
and one more for the fetch evidence of every HTTPS bottle.  The LLB operations are
the list of the copies that they describe.
-/

namespace DalecHomebrew.LLBUtil

open Foundation Foundation.GoString Resolution

/-- Where a copied file comes from. -/
inductive Origin (State : Type) where
  | imageBlob (reference filename : String)
  /-- The output mount of the fetcher that runs this request. -/
  | fetched (fetcherRef : String) (request : Fetcher.Request)
  | buildLocal (state : State)
deriving DecidableEq

structure FileCopy (State : Type) where
  origin : Origin State
  source : String
  destination : String
  createdTime : Int
deriving DecidableEq

structure BottleInputsV2 (State : Type) where
  bottles : List (FileCopy State) := []
  fetchEvidence : List (FileCopy State) := []
deriving DecidableEq

/-- A collision of bottle files is told apart from every other failure. -/
inductive Failure where
  | duplicateFilename (filename : String)
  | other (message : String)
deriving DecidableEq

def Failure.message : Failure → String
  | duplicateFilename filename => "duplicate V2 bottle filename " ++ quote filename
  | other message => message

def findNodeV2 (nodes : List NodeV2) (id : FormulaID) : Option NodeV2 :=
  nodes.find? fun node => node.id == id

section States

variable {State : Type} (libraries : Libraries)

/-- The state of the loop over the install order. -/
structure Progress (State : Type) where
  seenFiles : List String := []
  inputs : BottleInputsV2 State := {}
  usedLocal : Nat := 0
deriving DecidableEq

variable (record : RecordV2) (buildLocal : Table FormulaID State)

variable {id : FormulaID}

variable {libraries record buildLocal} {progress target : Progress State}

/-- The files that the loop has seen after these Formulae. -/
structure Seen (record : RecordV2) (ids : List FormulaID) (progress : Progress State) : Prop where
  files : List.Forall₂
    (fun id filename => ∃ node, findNodeV2 record.nodes id = some node ∧
      node.bottle.filename = filename) ids progress.seenFiles
  distinct : progress.seenFiles.Nodup
  copies : progress.inputs.bottles.map FileCopy.destination = progress.seenFiles.map ("/" ++ ·)

variable {ids : List FormulaID}

end States

end DalecHomebrew.LLBUtil
