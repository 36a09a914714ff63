import Countinghouse.Service.Address

/-! # Resources

What the paths of the service name.  Every path is under `/api/v1`, none ends in
an empty segment, and the segments that stand for identifiers are kept as they are
written, even if they are empty. -/

set_option autoImplicit false

namespace Countinghouse

inductive Resource where
  | health
  | journals
  | journal (id : String)
  | submission (journal : String)
  | approval (journal : String)
  | rejection (journal : String)
  | posting (journal : String)
  | reversal (journal : String)
  | periods
  | period (id : String)
  | closing (period : String)
  | locking (period : String)
  | reopening (period : String)
  | completion (period code : String)
  | balances (period : String)
  | permissions
  | roles
  | rolePermissions (role : String)
  | userRoles (user : String)
  | userPermissions (user : String)
  | conflicts
  | templates
  | template (id : String)
  | generation (template : String)
  | bankMatch
  | candidates (bank line : String)
  | summary (bank : String)
  | adjustment (bank : String)
  | audit
  deriving DecidableEq, Repr

namespace Resource

def ofSegments? : List String → Option Resource
  | ["health"] => some health
  | ["journals"] => some journals
  | ["journals", id] => some (journal id)
  | ["journals", id, "submit"] => some (submission id)
  | ["journals", id, "approve"] => some (approval id)
  | ["journals", id, "reject"] => some (rejection id)
  | ["journals", id, "post"] => some (posting id)
  | ["journals", id, "reverse"] => some (reversal id)
  | ["periods"] => some periods
  | ["periods", id] => some (period id)
  | ["periods", id, "close"] => some (closing id)
  | ["periods", id, "lock"] => some (locking id)
  | ["periods", id, "reopen"] => some (reopening id)
  | ["periods", id, "checklist", code, "complete"] => some (completion id code)
  | ["periods", id, "balances"] => some (balances id)
  | ["permissions"] => some permissions
  | ["roles"] => some roles
  | ["roles", id, "permissions"] => some (rolePermissions id)
  | ["users", id, "roles"] => some (userRoles id)
  | ["users", id, "permissions"] => some (userPermissions id)
  | ["sod", "conflicts"] => some conflicts
  | ["recurring-templates"] => some templates
  | ["recurring-templates", id] => some (template id)
  | ["recurring-templates", id, "generate"] => some (generation id)
  | ["bank-reconciliation", "match"] => some bankMatch
  | ["bank-reconciliation", bank, "candidates", line] => some (candidates bank line)
  | ["bank-reconciliation", bank, "summary"] => some (summary bank)
  | ["bank-reconciliation", bank, "adjustment"] => some (adjustment bank)
  | ["audit"] => some audit
  | _ => none

def ofPath? : List String → Option Resource
  | "api" :: "v1" :: segments =>
      if segments.getLast? = some "" then none else ofSegments? segments
  | _ => none

end Resource

end Countinghouse
