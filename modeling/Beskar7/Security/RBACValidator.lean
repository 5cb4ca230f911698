import Mathlib

/-!
# The RBAC validator

`RBACValidator` of `internal/security/rbac_validator.go`, which the security
monitor runs over the Beskar7 ClusterRoles. `validateRule` checks each rule
on its own: wildcards in all three lists, a wildcard verb, create, delete
and patch on secrets, impersonation. `checkOverlyBroadPermissions` and
`checkDangerousPermissions` go over the rules again, report some rules on
their own, and set flags whose combinations they report for the whole role.

Every check only looks for names in the lists of a rule, the wildcard `*`
among them; none reads what a wildcard stands for. Nothing appends to
`Errors`, so every result is valid.
-/

namespace Beskar7

/-- `rbacv1.PolicyRule`, of the lists the validator reads. -/
structure PolicyRule where
  apiGroups : List String := []
  resources : List String := []
  verbs : List String := []
  deriving DecidableEq, Repr

/-- `rbacv1.ClusterRole`. -/
structure ClusterRole where
  name : String
  rules : List PolicyRule := []
  deriving DecidableEq, Repr

/-- `rbacv1.Role`. -/
structure Role where
  name : String
  rules : List PolicyRule := []
  deriving DecidableEq, Repr

def SeverityCritical : String := "CRITICAL"
def SeverityHigh : String := "HIGH"
def SeverityMedium : String := "MEDIUM"
def SeverityLow : String := "LOW"

structure OverlyBroadRule where
  ruleName : String
  apiGroups : List String
  resources : List String
  verbs : List String
  reason : String
  severity : String
  suggestions : List String
  deriving DecidableEq, Repr

structure SecurityFinding where
  type : String
  severity : String
  description : String
  resource : String
  rule : String
  remediation : String
  deriving DecidableEq, Repr

structure RBACValidationResult where
  valid : Bool := false
  warnings : List String := []
  errors : List String := []
  overlyBroadRules : List OverlyBroadRule := []
  securityFindings : List SecurityFinding := []
  deriving DecidableEq, Repr

/-- `result.SecurityFindings = append(result.SecurityFindings, finding)`. -/
def RBACValidationResult.appendFinding (result : RBACValidationResult) (finding : SecurityFinding) :
    RBACValidationResult :=
  { result with securityFindings := result.securityFindings ++ [finding] }

def RBACValidationResult.appendOverlyBroadRule (result : RBACValidationResult) (rule : OverlyBroadRule) :
    RBACValidationResult :=
  { result with overlyBroadRules := result.overlyBroadRules ++ [rule] }

def RBACValidationResult.appendWarning (result : RBACValidationResult) (warning : String) :
    RBACValidationResult :=
  { result with warnings := result.warnings ++ [warning] }

namespace RBACValidator

def containsString (slice : List String) (str : String) : Bool := slice.contains str

def containsWildcard (slice : List String) : Bool := containsString slice "*"

def containsAPIGroup (slice : List String) (apiGroup : String) : Bool := containsString slice apiGroup

def containsResource (slice : List String) (resource : String) : Bool := containsString slice resource

def containsVerb (slice : List String) (verb : String) : Bool := containsString slice verb

def isClusterAdminEquivalent (rule : PolicyRule) : Bool :=
  containsWildcard rule.apiGroups && containsWildcard rule.resources && containsWildcard rule.verbs

/-- `strings.Join(rule.Resources, ",")`. -/
def joinResources (rule : PolicyRule) : String := ",".intercalate rule.resources

def validateRule (result : RBACValidationResult) (ruleName : String) (rule : PolicyRule) :
    RBACValidationResult :=
  let result :=
    if containsWildcard rule.apiGroups && containsWildcard rule.resources && containsWildcard rule.verbs then
      result.appendOverlyBroadRule
        { ruleName := ruleName, apiGroups := rule.apiGroups, resources := rule.resources, verbs := rule.verbs,
          reason := "Grants wildcard permissions (*) for all API groups, resources, and verbs",
          severity := SeverityCritical,
          suggestions := ["Replace wildcard permissions with specific API groups, resources, and verbs",
            "Follow the principle of least privilege",
            "Create separate rules for different operational needs"] }
    else result
  -- dangerous verb combinations
  let result :=
    if containsVerb rule.verbs "*" then
      result.appendFinding
        { type := "OverlyBroadVerbs", severity := SeverityHigh,
          description := "Rule grants wildcard verb permissions", resource := joinResources rule,
          rule := ruleName, remediation := "Replace '*' with specific verbs needed for operation" }
    else result
  -- create, delete and patch on secrets, in this one rule
  let result :=
    if containsResource rule.resources "secrets" || containsWildcard rule.resources then
      if containsVerb rule.verbs "create" && containsVerb rule.verbs "delete" &&
          containsVerb rule.verbs "patch" then
        result.appendFinding
          { type := "SecretsFullAccess", severity := SeverityHigh,
            description := "Rule grants full access to secrets (create, delete, patch)", resource := "secrets",
            rule := ruleName,
            remediation := "Limit secret permissions to only what's needed (e.g., get, list, watch for reading)" }
      else result
    else result
  let result :=
    if isClusterAdminEquivalent rule then
      result.appendFinding
        { type := "ClusterAdminEquivalent", severity := SeverityCritical,
          description := "Rule grants cluster-admin equivalent permissions", resource := joinResources rule,
          rule := ruleName, remediation := "Break down permissions into specific, minimal rules" }
    else result
  if containsResource rule.resources "users" || containsResource rule.resources "groups" ||
      containsResource rule.resources "serviceaccounts" then
    if containsVerb rule.verbs "impersonate" then
      result.appendFinding
        { type := "ImpersonationRisk", severity := SeverityHigh,
          description := "Rule grants impersonation permissions", resource := joinResources rule,
          rule := ruleName, remediation := "Remove impersonation permissions unless absolutely necessary" }
    else result
  else result

/-- One pass of the loop of `checkOverlyBroadPermissions`: the flags so far
and the result. -/
def overlyBroadPass (state : Bool × Bool × RBACValidationResult) (entry : PolicyRule × Nat) :
    Bool × Bool × RBACValidationResult :=
  let (coreResourcesWithWildcard, rbacResourcesWithWildcard, result) := state
  let (rule, i) := entry
  let ruleName := s!"Rule {i}"
  -- wildcard access to core resources
  let (coreResourcesWithWildcard, result) :=
    if (containsAPIGroup rule.apiGroups "" || containsWildcard rule.apiGroups) &&
        containsWildcard rule.resources then
      (true, result.appendWarning s!"{ruleName} grants wildcard access to core Kubernetes resources")
    else (coreResourcesWithWildcard, result)
  -- wildcard access to RBAC resources
  if containsAPIGroup rule.apiGroups "rbac.authorization.k8s.io" || containsWildcard rule.apiGroups then
    if containsWildcard rule.resources || containsResource rule.resources "*" then
      (coreResourcesWithWildcard, true,
        result.appendFinding
          { type := "RBACWildcardAccess", severity := SeverityHigh,
            description := "Rule grants wildcard access to RBAC resources",
            resource := "rbac.authorization.k8s.io/*", rule := ruleName,
            remediation := "Limit RBAC permissions to specific resources and operations" })
    else (coreResourcesWithWildcard, rbacResourcesWithWildcard, result)
  else (coreResourcesWithWildcard, rbacResourcesWithWildcard, result)

def checkOverlyBroadPermissions (result : RBACValidationResult) (clusterRole : ClusterRole) :
    RBACValidationResult :=
  let (coreResourcesWithWildcard, rbacResourcesWithWildcard, result) :=
    clusterRole.rules.zipIdx.foldl overlyBroadPass (false, false, result)
  if coreResourcesWithWildcard && rbacResourcesWithWildcard then
    result.appendFinding
      { type := "ExcessivePrivileges", severity := SeverityCritical,
        description := "ClusterRole has both core resource and RBAC wildcard access",
        resource := clusterRole.name, rule := "Multiple rules",
        remediation := "Split into multiple roles with minimal required permissions" }
  else result

/-- One pass of the loop of `checkDangerousPermissions`. -/
def dangerousPass (state : Bool × Bool × Bool × RBACValidationResult) (entry : PolicyRule × Nat) :
    Bool × Bool × Bool × RBACValidationResult :=
  let (hasSecretAccess, hasNodeAccess, hasPodExec, result) := state
  let (rule, i) := entry
  let ruleName := s!"Rule {i}"
  let hasSecretAccess :=
    if containsResource rule.resources "secrets" || containsWildcard rule.resources then true
    else hasSecretAccess
  let hasNodeAccess :=
    if containsResource rule.resources "nodes" || containsWildcard rule.resources then true
    else hasNodeAccess
  let (hasPodExec, result) :=
    if containsResource rule.resources "pods/exec" || containsResource rule.resources "pods/attach" then
      (true, result.appendFinding
        { type := "PodExecAccess", severity := "MEDIUM",
          description := "Rule grants pod exec/attach permissions", resource := "pods/exec, pods/attach",
          rule := ruleName, remediation := "Remove exec/attach permissions unless required for debugging" })
    else (hasPodExec, result)
  let result :=
    if containsResource rule.resources "persistentvolumes" && containsVerb rule.verbs "create" then
      result.appendWarning s!"{ruleName} can create PersistentVolumes, which may allow host filesystem access"
    else result
  (hasSecretAccess, hasNodeAccess, hasPodExec, result)

def checkDangerousPermissions (result : RBACValidationResult) (clusterRole : ClusterRole) :
    RBACValidationResult :=
  let (hasSecretAccess, hasNodeAccess, hasPodExec, result) :=
    clusterRole.rules.zipIdx.foldl dangerousPass (false, false, false, result)
  let result :=
    if hasSecretAccess && hasNodeAccess then
      result.appendFinding
        { type := "SecretNodeAccess", severity := SeverityHigh,
          description := "ClusterRole has both secret and node access", resource := clusterRole.name,
          rule := "Multiple rules", remediation := "Consider separating secret and node access into different roles" }
    else result
  if hasSecretAccess && hasPodExec then
    result.appendFinding
      { type := "SecretExecAccess", severity := SeverityHigh,
        description := "ClusterRole has both secret access and pod exec capabilities", resource := clusterRole.name,
        rule := "Multiple rules", remediation := "Limit either secret access or exec capabilities" }
  else result

/-- The loop of `validateRule` calls over the rules, named by their index. -/
def validateRules (result : RBACValidationResult) (rules : List PolicyRule) : RBACValidationResult :=
  rules.zipIdx.foldl (fun result entry => validateRule result s!"Rule {entry.2}" entry.1) result

def ValidateClusterRole (clusterRole : ClusterRole) : RBACValidationResult :=
  let result := validateRules {} clusterRole.rules
  let result := checkOverlyBroadPermissions result clusterRole
  let result := checkDangerousPermissions result clusterRole
  { result with valid := result.errors.length == 0 }

/-- A Role gets the checks of its rules only. -/
def ValidateRole (role : Role) : RBACValidationResult :=
  let result := validateRules {} role.rules
  { result with valid := result.errors.length == 0 }

end RBACValidator

end Beskar7
