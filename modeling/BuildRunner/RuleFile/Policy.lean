/-! What happens when a rule file declares a target again. -/
namespace BuildRunner

inductive DuplicatePolicy where
  /-- The later declaration replaces the earlier one, with a warning. -/
  | overwrite
  /-- The later declaration is an error. -/
  | reject
deriving DecidableEq, Repr

namespace DuplicatePolicy

def name : DuplicatePolicy → String
  | overwrite => "overwrite"
  | reject => "reject"

def ofStrict (strict : Bool) : DuplicatePolicy := if strict then reject else overwrite

end DuplicatePolicy
end BuildRunner
