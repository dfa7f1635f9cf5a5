import DalecHomebrew.Foundation.GoString

/-!
# Resolving a path component by component

A path is resolved from the root of a tree by walking over its components.  A
symbolic link restarts the walk at the root, with the components of its target in
front of what is left of the path.  A component that the tree does not know is
passed over: whether the path that the walk ends at exists is for the caller to
ask.

The walk is given a budget of links, and it stops at a link that it has already
followed.
-/

namespace DalecHomebrew.Foundation.LinkWalk

open Foundation.GoString

/-- What a tree knows of a path.  The components of a link's target start at the
root of the tree; a barred path must not be walked over. -/
inductive Node where
  | directory
  | file
  | link (target : List String)
  | barred
deriving DecidableEq

inductive Failure where
  | escapes
  | barred (path : String)
  | notDirectory (path : String)
  | cycle (path : String)
deriving DecidableEq

/-- Where a walk without links ends: at the end of the path, or at a link with the
components that are left.  The trace has the known paths on the way. -/
inductive Stop where
  | arrived (stack trace : List String)
  | follow (path : String) (target rest trace : List String)
deriving DecidableEq

section Walk

variable (lookup : String → Option Node)

/-- Walks up to the end of the path or up to the first link. -/
def advance : List String → List String → List String → Except Failure Stop
  | [], stack, trace => .ok (.arrived stack trace)
  | component :: queue, stack, trace =>
    if component = "" ∨ component = "." then advance queue stack trace
    else if component = ".." then
      if stack = [] then .error .escapes else advance queue stack.dropLast trace
    else
      let candidate := join (stack ++ [component]) "/"
      match lookup candidate with
      | none => advance queue (stack ++ [component]) trace
      | some .barred => .error (.barred candidate)
      | some .directory => advance queue (stack ++ [component]) (trace ++ [candidate])
      | some .file =>
        if queue ≠ [] then .error (.notDirectory candidate)
        else advance queue (stack ++ [component]) (trace ++ [candidate])
      | some (.link target) => .ok (.follow candidate target queue (trace ++ [candidate]))

/-- Walks over at most `budget` links.  The result is the path that the walk ends
at, with the known paths it has walked over. -/
def walk : Nat → List String → List String → List String → Except Failure (String × List String)
  | budget, visited, queue, trace =>
    match advance lookup queue [] trace with
    | .error failure => .error failure
    | .ok (.arrived stack trace) => .ok (join stack "/", trace)
    | .ok (.follow path target rest trace) =>
      match budget with
      | 0 => .error (.cycle path)
      | budget + 1 =>
        if path ∈ visited then .error (.cycle path)
        else walk budget (path :: visited) (target ++ rest) trace

/-- The number of links that one resolution may follow. -/
def maximumLinks : Nat := 64

/-- Resolves a slash-separated path. -/
def resolve (path : String) : Except Failure (String × List String) :=
  walk lookup maximumLinks [] (splitChar path '/') []

end Walk

end DalecHomebrew.Foundation.LinkWalk
