import DalecHomebrew.Foundation.GoString

/-!
# Network names

The parsers of the Go packages `net/url` and `net` are library code, so they
are a parameter: what `url.Parse` answers is a record of the fields and
accessors that validators read.
-/

namespace DalecHomebrew.Foundation

/-- The fields of `url.URL` and the answers of its accessors. -/
structure ParsedURL where
  scheme : String
  opaqueData : String := ""
  hasUser : Bool := false
  host : String
  hostname : String
  port : String := ""
  path : String := ""
  rawPath : String := ""
  escapedPath : String := ""
  rawQuery : String := ""
  forceQuery : Bool := false
  fragment : String := ""
  rawFragment : String := ""
deriving DecidableEq

/-- The parsers of the standard library that validators call. -/
structure NetLibrary where
  /-- `url.Parse`. -/
  parseURL : String → Except String ParsedURL
  /-- Whether `net.ParseIP` recognizes an address. -/
  isIP : String → Bool

end DalecHomebrew.Foundation
