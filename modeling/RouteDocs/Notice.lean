import RouteDocs.Doc.Basic

/-!
# Notices

While routes are registered and a document is assembled, notices are given of
what happens. They change nothing in the result: a notice about a failed call
stands even though the call left no other trace.
-/

namespace RouteDocs
inductive Clash where
  | twoShapes
  | twoStatusMaps
  | nestedShape
deriving DecidableEq

def Clash.message : Clash -> String
  | twoShapes => "registered with two different shapes"
  | twoStatusMaps => "declared with two different status maps"
  | nestedShape => "nested inside itself with a different shape"

inductive Notice where
  | documentation (warning : Doc.Warning)
  | conflict (name : String) (clash : Clash)
  /-- A remark about a variant of an error union. -/
  | variant (message : String)
  | registered (method path : String)
  | assembly (message : String)
deriving DecidableEq
end RouteDocs
