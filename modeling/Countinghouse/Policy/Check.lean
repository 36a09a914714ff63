import Countinghouse.Policy.Error

/-! # Checks of the policy

Whether an actor holds a permission, whether a step on a journal respects the
separation of duties, and whether a change of the grants introduces conflicts. -/

set_option autoImplicit false

namespace Countinghouse

inductive Enforcement where
  | block
  | warn
  deriving DecidableEq, Repr

inductive GrantOutcome where
  | clean
  | warned (conflicts : Conflicts)
  deriving DecidableEq

structure PriorStep where
  actor : UserId
  permission : Permission
  deriving DecidableEq

structure Action where
  actor : UserId
  permission : Permission
  /-- Those who prepared the journal. -/
  makers : List UserId
  priorSteps : List PriorStep

def PermissionSet.require (held : PermissionSet) (p : Permission) : Except PolicyError Unit :=
  if p ∈ held then .ok () else .error (.permissionDenied p)

/-- The first of the accepted permissions that is held.  Where none is, the first
accepted one is reported missing. -/
def PermissionSet.requireAny (held : PermissionSet) (accepted : List Permission) :
    Except PolicyError Permission :=
  match accepted.find? (· ∈ held) with
  | some p => .ok p
  | none => .error (.permissionDenied (accepted.headD .journalPost))

/-- The first active rule that keeps `p` apart from an earlier step. -/
def Rule.keepingApart? (rules : List Rule) (earlier p : Permission) : Option Rule :=
  rules.find? fun rule => rule.active && decide (rule.Pairs earlier p)

/-- The first rule that keeps the action apart from a step that its actor took,
searched step by step. -/
def Action.violatedRule? (action : Action) (rules : List Rule) : Option Rule :=
  (action.priorSteps.filter (·.actor = action.actor)).findSome? fun step =>
    Rule.keepingApart? rules step.permission action.permission

/-- Whoever prepared a journal does not approve it, and no one takes two steps on
a journal that an active rule keeps apart. -/
def Action.check (action : Action) (rules : List Rule) : Except PolicyError Unit :=
  if action.permission = .journalApprove ∧ action.actor ∈ action.makers then
    .error (.makerChecker action.actor)
  else
    match action.violatedRule? rules with
    | some rule => .error (.ruleViolated rule.id rule.description)
    | none => .ok ()

def Grants.introduced (g : Grants) (rules : List Rule) (change : GrantChange) : Conflicts :=
  ((g.apply change).conflicts rules).without (g.conflicts rules)

/-- Whether a change is allowed; only conflicts that it introduces count. -/
def Grants.check (g : Grants) (rules : List Rule) (change : GrantChange)
    (enforcement : Enforcement) : Except PolicyError GrantOutcome :=
  let introduced := g.introduced rules change
  if introduced.isEmpty then .ok .clean
  else
    match enforcement with
    | .block => .error (.grantConflicts introduced)
    | .warn => .ok (.warned introduced)

end Countinghouse
