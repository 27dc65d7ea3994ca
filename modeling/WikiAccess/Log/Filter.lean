import WikiAccess.Log.Directive

/-!
# Log filters

A filter is a list of directives separated by commas, such as
`info,wiki::access=debug`.  No part of a directive can hold a comma.
-/

namespace WikiAccess
namespace Log

/-- The directives of a filter in order.  Empty parts are skipped. -/
def parseFilter? (raw : String) : Option (List Directive) :=
  ((raw.toList.splitOn ',').filter (· ≠ [])).mapM Directive.ofChars?

end Log
end WikiAccess
