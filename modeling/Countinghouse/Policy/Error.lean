import Countinghouse.Failure
import Countinghouse.Policy.Conflict

/-! # Refusals of the policy -/

set_option autoImplicit false

namespace Countinghouse

inductive PolicyError where
  | permissionDenied (missing : Permission)
  /-- The actor prepared what they were to approve. -/
  | makerChecker (actor : UserId)
  /-- The actor took an earlier step that a rule keeps apart from this one. -/
  | ruleViolated (rule : RuleId) (description : String)
  | grantConflicts (conflicts : Conflicts)
  | unknownPermission (code : String)
  | roleNotFound (role : RoleId)
  | database (reason : String)
  deriving DecidableEq

namespace PolicyError

def isSod : PolicyError → Bool
  | makerChecker _ | ruleViolated _ _ | grantConflicts _ => true
  | _ => false

def name : PolicyError → String
  | permissionDenied _ => "PermissionDenied"
  | makerChecker _ => "MakerChecker"
  | ruleViolated _ _ => "RuleViolated"
  | grantConflicts _ => "GrantConflicts"
  | unknownPermission _ => "UnknownPermission"
  | roleNotFound _ => "RoleNotFound"
  | database _ => "Database"

def message : PolicyError → String
  | permissionDenied p => "Missing permission " ++ p.code
  | makerChecker actor => "User " ++ actor.text ++ " prepared this journal and cannot approve it"
  | ruleViolated rule description =>
      "Segregation of duties rule " ++ rule.text ++ " violated: " ++ description
  | grantConflicts c =>
      "Grant would create " ++ toString c.size ++ " segregation of duties conflict(s)"
  | unknownPermission code => "Unknown permission code: " ++ code
  | roleNotFound role => "Role " ++ role.text ++ " not found"
  | database reason => "Database error: " ++ reason

def code : PolicyError → String
  | permissionDenied _ => "PERMISSION_DENIED"
  | makerChecker _ | ruleViolated _ _ | grantConflicts _ => "SOD_VIOLATION"
  | unknownPermission _ => "UNKNOWN_PERMISSION"
  | roleNotFound _ => "ROLE_NOT_FOUND"
  | database _ => "DATABASE_ERROR"

def status : PolicyError → Nat
  | permissionDenied _ | makerChecker _ | ruleViolated _ _ | grantConflicts _ => 403
  | unknownPermission _ => 400
  | roleNotFound _ => 404
  | database _ => 500

def failure (e : PolicyError) : Failure :=
  let kind : FailureKind := match e with
    | permissionDenied _ => .permissionDenied
    | makerChecker _ | ruleViolated _ _ | grantConflicts _ => .sodViolation
    | unknownPermission _ => .validation
    | roleNotFound _ => .notFound
    | database _ => .database
  ⟨kind, e.message⟩

instance : Refusal PolicyError := ⟨name, message, code, status, failure⟩

end PolicyError

end Countinghouse
