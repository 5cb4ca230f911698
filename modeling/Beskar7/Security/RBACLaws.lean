import Beskar7.Security.RBACValidator
import Beskar7.Lib.Trace

/-!
# What the RBAC validator reports, and for which roles

Every check of the validator looks for names in the lists of a rule, and
for nothing else: it is a `RuleCheck`, a formula of `and` and `or` over
such lookups, and a rule with more names passes every check a smaller one
passes (`RuleCheck.eval_mono`). What `ValidateClusterRole` reports, by type
and severity, is what these checks find in one rule, or for the flags of
the role, in some rule each (`mem_kinds_ValidateClusterRole`).

So the severity only grows when every rule is covered by a rule with more
names (`ValidateClusterRole_monotone_in_rules`). It does not grow with what
the rules grant, reading `*` as all: the names of one rule do not add up
with another's, and a wildcard is not read as the names it stands for. A
rule granting create, delete and patch on secrets is reported HIGH, and the
three rules that grant one verb each are reported nothing
(`split_secrets_rules_lower_severity`).
-/

namespace Beskar7

open RBACValidator

-- ---------------------------------------------------------------------------
-- Results by kind of finding
-- ---------------------------------------------------------------------------

/-- The findings of a result by type and severity, with each overly broad
rule as the security monitor lists it. -/
def RBACValidationResult.kinds (result : RBACValidationResult) : List (String × String) :=
  result.securityFindings.map (fun f => (f.type, f.severity)) ++
    result.overlyBroadRules.map (fun r => ("OverlyBroadRule", r.severity))

def severityRank (severity : String) : Nat :=
  if severity = SeverityCritical then 4
  else if severity = SeverityHigh then 3
  else if severity = SeverityMedium then 2
  else if severity = SeverityLow then 1
  else 0

/-- The highest severity a result reports, 0 for none. -/
def RBACValidationResult.highestSeverity (result : RBACValidationResult) : Nat :=
  (result.kinds.map fun k => severityRank k.2).foldr max ⊥

namespace RBACValidationResult

variable {result : RBACValidationResult} {k : String × String}

@[simp] theorem mem_kinds_appendFinding {finding : SecurityFinding} :
    k ∈ (result.appendFinding finding).kinds ↔ k ∈ result.kinds ∨ k = (finding.type, finding.severity) := by
  simp only [kinds, appendFinding, List.map_append, List.mem_append, List.map_cons, List.map_nil,
    List.mem_singleton]
  rw [or_right_comm]

@[simp] theorem mem_kinds_appendOverlyBroadRule {rule : OverlyBroadRule} :
    k ∈ (result.appendOverlyBroadRule rule).kinds ↔ k ∈ result.kinds ∨ k = ("OverlyBroadRule", rule.severity) := by
  simp only [kinds, appendOverlyBroadRule, List.map_append, List.mem_append, List.map_cons, List.map_nil,
    List.mem_singleton]
  rw [or_assoc]

@[simp] theorem kinds_appendWarning (warning : String) : (result.appendWarning warning).kinds = result.kinds :=
  rfl

@[simp] theorem kinds_setValid (valid : Bool) : { result with valid := valid }.kinds = result.kinds :=
  rfl

@[simp] theorem kinds_empty : ({} : RBACValidationResult).kinds = [] :=
  rfl

@[simp] theorem errors_appendFinding (finding : SecurityFinding) : (result.appendFinding finding).errors = result.errors :=
  rfl

@[simp] theorem errors_appendOverlyBroadRule (rule : OverlyBroadRule) :
    (result.appendOverlyBroadRule rule).errors = result.errors :=
  rfl

@[simp] theorem errors_appendWarning (warning : String) : (result.appendWarning warning).errors = result.errors :=
  rfl

theorem mem_kinds_ite_appendFinding {c : Prop} [Decidable c] {finding : SecurityFinding} :
    k ∈ (if c then result.appendFinding finding else result).kinds ↔
      k ∈ result.kinds ∨ (k = (finding.type, finding.severity) ∧ c) := by
  split_ifs with hc <;> simp [hc]

theorem mem_kinds_ite_appendOverlyBroadRule {c : Prop} [Decidable c] {rule : OverlyBroadRule} :
    k ∈ (if c then result.appendOverlyBroadRule rule else result).kinds ↔
      k ∈ result.kinds ∨ (k = ("OverlyBroadRule", rule.severity) ∧ c) := by
  split_ifs with hc <;> simp [hc]

/-- A result reports a higher severity when it reports every kind of another. -/
theorem highestSeverity_mono {result' : RBACValidationResult} (h : ∀ k ∈ result.kinds, k ∈ result'.kinds) :
    result.highestSeverity ≤ result'.highestSeverity := by
  apply List.max_le_of_forall_le
  intro x hx
  obtain ⟨k, hk, rfl⟩ := List.mem_map.mp hx
  exact List.le_max_of_le (List.mem_map_of_mem (h k hk)) le_rfl

end RBACValidationResult

-- ---------------------------------------------------------------------------
-- Checks on the names of a rule
-- ---------------------------------------------------------------------------

inductive RuleField
  | apiGroups
  | resources
  | verbs
  deriving DecidableEq, Repr

def PolicyRule.field (rule : PolicyRule) : RuleField → List String
  | .apiGroups => rule.apiGroups
  | .resources => rule.resources
  | .verbs => rule.verbs

/-- A condition on a rule that looks for names in its lists. -/
inductive RuleCheck
  | names (field : RuleField) (name : String)
  | and (c c' : RuleCheck)
  | or (c c' : RuleCheck)
  deriving DecidableEq, Repr

def RuleCheck.eval (rule : PolicyRule) : RuleCheck → Bool
  | .names field name => containsString (rule.field field) name
  | .and c c' => c.eval rule && c'.eval rule
  | .or c c' => c.eval rule || c'.eval rule

/-- Every list of `rule` is among the names of that list of `rule'`. -/
def PolicyRule.Subsumed (rule rule' : PolicyRule) : Prop :=
  rule.apiGroups ⊆ rule'.apiGroups ∧ rule.resources ⊆ rule'.resources ∧ rule.verbs ⊆ rule'.verbs

instance (rule rule' : PolicyRule) : Decidable (rule.Subsumed rule') :=
  inferInstanceAs (Decidable (_ ∧ _ ∧ _))

theorem PolicyRule.Subsumed.field {rule rule' : PolicyRule} (h : rule.Subsumed rule') :
    ∀ f, rule.field f ⊆ rule'.field f
  | .apiGroups => h.1
  | .resources => h.2.1
  | .verbs => h.2.2

theorem containsString_eq_true {slice : List String} {str : String} :
    containsString slice str = true ↔ str ∈ slice :=
  List.contains_iff_mem

theorem RuleCheck.eval_mono {rule rule' : PolicyRule} (h : rule.Subsumed rule') :
    ∀ c : RuleCheck, c.eval rule = true → c.eval rule' = true
  | .names field name, hc => by
    rw [eval, containsString_eq_true] at hc ⊢
    exact h.field field hc
  | .and c c', hc => by
    rw [eval, Bool.and_eq_true] at hc ⊢
    exact ⟨eval_mono h c hc.1, eval_mono h c' hc.2⟩
  | .or c c', hc => by
    rw [eval, Bool.or_eq_true] at hc ⊢
    exact hc.imp (eval_mono h c) (eval_mono h c')

namespace RuleCheck

/-- `isClusterAdminEquivalent`, and the first check of `validateRule`. -/
def allWildcard : RuleCheck :=
  .and (.and (.names .apiGroups "*") (.names .resources "*")) (.names .verbs "*")

def wildcardVerbs : RuleCheck := .names .verbs "*"

def secretsFullAccess : RuleCheck :=
  .and (.or (.names .resources "secrets") (.names .resources "*"))
    (.and (.and (.names .verbs "create") (.names .verbs "delete")) (.names .verbs "patch"))

def impersonation : RuleCheck :=
  .and (.or (.or (.names .resources "users") (.names .resources "groups")) (.names .resources "serviceaccounts"))
    (.names .verbs "impersonate")

def coreWildcard : RuleCheck :=
  .and (.or (.names .apiGroups "") (.names .apiGroups "*")) (.names .resources "*")

/-- The source looks for the wildcard resource twice. -/
def rbacWildcard : RuleCheck :=
  .and (.or (.names .apiGroups "rbac.authorization.k8s.io") (.names .apiGroups "*"))
    (.or (.names .resources "*") (.names .resources "*"))

def secretAccess : RuleCheck := .or (.names .resources "secrets") (.names .resources "*")

def nodeAccess : RuleCheck := .or (.names .resources "nodes") (.names .resources "*")

def podExec : RuleCheck := .or (.names .resources "pods/exec") (.names .resources "pods/attach")

-- the checks the loops make, as the source writes them
theorem coreWildcard_eval (rule : PolicyRule) : coreWildcard.eval rule =
    ((containsAPIGroup rule.apiGroups "" || containsWildcard rule.apiGroups) && containsWildcard rule.resources) :=
  rfl

theorem rbacWildcard_eval (rule : PolicyRule) : rbacWildcard.eval rule =
    ((containsAPIGroup rule.apiGroups "rbac.authorization.k8s.io" || containsWildcard rule.apiGroups) &&
      (containsWildcard rule.resources || containsResource rule.resources "*")) :=
  rfl

theorem secretAccess_eval (rule : PolicyRule) :
    secretAccess.eval rule = (containsResource rule.resources "secrets" || containsWildcard rule.resources) :=
  rfl

theorem nodeAccess_eval (rule : PolicyRule) :
    nodeAccess.eval rule = (containsResource rule.resources "nodes" || containsWildcard rule.resources) :=
  rfl

theorem podExec_eval (rule : PolicyRule) :
    podExec.eval rule = (containsResource rule.resources "pods/exec" || containsResource rule.resources "pods/attach") :=
  rfl

end RuleCheck

/-- The checks of `validateRule`, each with the kind it reports. -/
def validateRuleChecks : List ((String × String) × RuleCheck) :=
  [(("OverlyBroadRule", SeverityCritical), .allWildcard), (("OverlyBroadVerbs", SeverityHigh), .wildcardVerbs),
   (("SecretsFullAccess", SeverityHigh), .secretsFullAccess),
   (("ClusterAdminEquivalent", SeverityCritical), .allWildcard),
   (("ImpersonationRisk", SeverityHigh), .impersonation)]

/-- What `ValidateClusterRole` reports for a role: the kinds of the checks one
rule passes, and those of the flags, when each flag is set by some rule. -/
def Reports (clusterRole : ClusterRole) (k : String × String) : Prop :=
  (∃ rule ∈ clusterRole.rules, ∃ p ∈ validateRuleChecks, k = p.1 ∧ p.2.eval rule = true) ∨
  (∃ rule ∈ clusterRole.rules, k = ("RBACWildcardAccess", SeverityHigh) ∧ RuleCheck.rbacWildcard.eval rule = true) ∨
  (k = ("ExcessivePrivileges", SeverityCritical) ∧
    (∃ rule ∈ clusterRole.rules, RuleCheck.coreWildcard.eval rule = true) ∧
    ∃ rule ∈ clusterRole.rules, RuleCheck.rbacWildcard.eval rule = true) ∨
  (∃ rule ∈ clusterRole.rules, k = ("PodExecAccess", SeverityMedium) ∧ RuleCheck.podExec.eval rule = true) ∨
  (k = ("SecretNodeAccess", SeverityHigh) ∧
    (∃ rule ∈ clusterRole.rules, RuleCheck.secretAccess.eval rule = true) ∧
    ∃ rule ∈ clusterRole.rules, RuleCheck.nodeAccess.eval rule = true) ∨
  (k = ("SecretExecAccess", SeverityHigh) ∧
    (∃ rule ∈ clusterRole.rules, RuleCheck.secretAccess.eval rule = true) ∧
    ∃ rule ∈ clusterRole.rules, RuleCheck.podExec.eval rule = true)

namespace RBACValidator

open RBACValidationResult

-- ---------------------------------------------------------------------------
-- One rule, one pass
-- ---------------------------------------------------------------------------

theorem mem_kinds_validateRule (result : RBACValidationResult) (ruleName : String) (rule : PolicyRule)
    (k : String × String) :
    k ∈ (validateRule result ruleName rule).kinds ↔
      k ∈ result.kinds ∨ ∃ p ∈ validateRuleChecks, k = p.1 ∧ p.2.eval rule = true := by
  unfold validateRule
  -- the nested check on secrets is one check of both conditions
  simp only [← ite_and, mem_kinds_ite_appendFinding, mem_kinds_ite_appendOverlyBroadRule]
  simp only [validateRuleChecks, List.mem_cons, List.not_mem_nil, or_false, exists_eq_or_imp, exists_eq_left,
    RuleCheck.allWildcard, RuleCheck.wildcardVerbs, RuleCheck.secretsFullAccess, RuleCheck.impersonation,
    RuleCheck.eval, PolicyRule.field, isClusterAdminEquivalent, containsWildcard, containsVerb, containsResource,
    Bool.and_eq_true, Bool.or_eq_true, or_assoc]

section Passes

variable (rule : PolicyRule) (i : Nat) (k : String × String)

theorem overlyBroadPass_core (core rbac : Bool) (result : RBACValidationResult) :
    (overlyBroadPass (core, rbac, result) (rule, i)).1 = (core || RuleCheck.coreWildcard.eval rule) := by
  rw [RuleCheck.coreWildcard_eval]
  unfold overlyBroadPass
  dsimp only
  split_ifs <;> simp_all

theorem overlyBroadPass_rbac (core rbac : Bool) (result : RBACValidationResult) :
    (overlyBroadPass (core, rbac, result) (rule, i)).2.1 = (rbac || RuleCheck.rbacWildcard.eval rule) := by
  rw [RuleCheck.rbacWildcard_eval]
  unfold overlyBroadPass
  dsimp only
  split_ifs <;> simp_all

theorem mem_kinds_overlyBroadPass (core rbac : Bool) (result : RBACValidationResult) :
    k ∈ (overlyBroadPass (core, rbac, result) (rule, i)).2.2.kinds ↔
      k ∈ result.kinds ∨ (k = ("RBACWildcardAccess", SeverityHigh) ∧ RuleCheck.rbacWildcard.eval rule = true) := by
  rw [RuleCheck.rbacWildcard_eval]
  unfold overlyBroadPass
  dsimp only
  split_ifs <;> simp_all

theorem dangerousPass_secret (secret node exec : Bool) (result : RBACValidationResult) :
    (dangerousPass (secret, node, exec, result) (rule, i)).1 = (secret || RuleCheck.secretAccess.eval rule) := by
  rw [RuleCheck.secretAccess_eval]
  unfold dangerousPass
  dsimp only
  split_ifs <;> simp_all

theorem dangerousPass_node (secret node exec : Bool) (result : RBACValidationResult) :
    (dangerousPass (secret, node, exec, result) (rule, i)).2.1 = (node || RuleCheck.nodeAccess.eval rule) := by
  rw [RuleCheck.nodeAccess_eval]
  unfold dangerousPass
  dsimp only
  split_ifs <;> simp_all

theorem dangerousPass_exec (secret node exec : Bool) (result : RBACValidationResult) :
    (dangerousPass (secret, node, exec, result) (rule, i)).2.2.1 = (exec || RuleCheck.podExec.eval rule) := by
  rw [RuleCheck.podExec_eval]
  unfold dangerousPass
  dsimp only
  split_ifs <;> simp_all

theorem mem_kinds_dangerousPass (secret node exec : Bool) (result : RBACValidationResult) :
    k ∈ (dangerousPass (secret, node, exec, result) (rule, i)).2.2.2.kinds ↔
      k ∈ result.kinds ∨ (k = ("PodExecAccess", SeverityMedium) ∧ RuleCheck.podExec.eval rule = true) := by
  rw [RuleCheck.podExec_eval]
  unfold dangerousPass
  dsimp only
  split_ifs <;> simp_all [SeverityMedium]

end Passes

-- ---------------------------------------------------------------------------
-- The loops over the rules
-- ---------------------------------------------------------------------------

theorem mem_kinds_validateRules (result : RBACValidationResult) (rules : List PolicyRule) (k : String × String) :
    k ∈ (validateRules result rules).kinds ↔
      k ∈ result.kinds ∨ ∃ rule ∈ rules, ∃ p ∈ validateRuleChecks, k = p.1 ∧ p.2.eval rule = true :=
  Trace.mem_foldl_zipIdx_collect _ RBACValidationResult.kinds
    (fun rule k => ∃ p ∈ validateRuleChecks, k = p.1 ∧ p.2.eval rule = true)
    (fun result rule _ k => mem_kinds_validateRule result _ rule k) rules result k

theorem mem_kinds_checkOverlyBroadPermissions (result : RBACValidationResult) (clusterRole : ClusterRole)
    (k : String × String) :
    k ∈ (checkOverlyBroadPermissions result clusterRole).kinds ↔
      k ∈ result.kinds ∨
      (∃ rule ∈ clusterRole.rules, k = ("RBACWildcardAccess", SeverityHigh) ∧ RuleCheck.rbacWildcard.eval rule = true) ∨
      (k = ("ExcessivePrivileges", SeverityCritical) ∧
        (∃ rule ∈ clusterRole.rules, RuleCheck.coreWildcard.eval rule = true) ∧
        ∃ rule ∈ clusterRole.rules, RuleCheck.rbacWildcard.eval rule = true) := by
  -- the two flags and the findings of the loop, from those of one pass
  have hcore := Trace.foldl_zipIdx_flag overlyBroadPass (·.1) RuleCheck.coreWildcard.eval
    (fun ⟨core, rbac, result⟩ rule i => overlyBroadPass_core rule i core rbac result)
    clusterRole.rules (false, false, result)
  have hrbac := Trace.foldl_zipIdx_flag overlyBroadPass (·.2.1) RuleCheck.rbacWildcard.eval
    (fun ⟨core, rbac, result⟩ rule i => overlyBroadPass_rbac rule i core rbac result)
    clusterRole.rules (false, false, result)
  have hkinds := Trace.mem_foldl_zipIdx_collect overlyBroadPass (·.2.2.kinds)
    (fun rule k => k = ("RBACWildcardAccess", SeverityHigh) ∧ RuleCheck.rbacWildcard.eval rule = true)
    (fun ⟨core, rbac, result⟩ rule i k => mem_kinds_overlyBroadPass rule i k core rbac result)
    clusterRole.rules (false, false, result) k
  unfold checkOverlyBroadPermissions
  generalize clusterRole.rules.zipIdx.foldl overlyBroadPass (false, false, result) = out at hcore hrbac hkinds
  obtain ⟨core, rbac, result'⟩ := out
  dsimp only at hcore hrbac hkinds ⊢
  rw [mem_kinds_ite_appendFinding, hkinds, or_assoc, hcore, hrbac]
  simp only [Bool.false_or, Bool.and_eq_true, List.any_eq_true]

theorem mem_kinds_checkDangerousPermissions (result : RBACValidationResult) (clusterRole : ClusterRole)
    (k : String × String) :
    k ∈ (checkDangerousPermissions result clusterRole).kinds ↔
      k ∈ result.kinds ∨
      (∃ rule ∈ clusterRole.rules, k = ("PodExecAccess", SeverityMedium) ∧ RuleCheck.podExec.eval rule = true) ∨
      (k = ("SecretNodeAccess", SeverityHigh) ∧
        (∃ rule ∈ clusterRole.rules, RuleCheck.secretAccess.eval rule = true) ∧
        ∃ rule ∈ clusterRole.rules, RuleCheck.nodeAccess.eval rule = true) ∨
      (k = ("SecretExecAccess", SeverityHigh) ∧
        (∃ rule ∈ clusterRole.rules, RuleCheck.secretAccess.eval rule = true) ∧
        ∃ rule ∈ clusterRole.rules, RuleCheck.podExec.eval rule = true) := by
  have hsecret := Trace.foldl_zipIdx_flag dangerousPass (·.1) RuleCheck.secretAccess.eval
    (fun ⟨secret, node, exec, result⟩ rule i => dangerousPass_secret rule i secret node exec result)
    clusterRole.rules (false, false, false, result)
  have hnode := Trace.foldl_zipIdx_flag dangerousPass (·.2.1) RuleCheck.nodeAccess.eval
    (fun ⟨secret, node, exec, result⟩ rule i => dangerousPass_node rule i secret node exec result)
    clusterRole.rules (false, false, false, result)
  have hexec := Trace.foldl_zipIdx_flag dangerousPass (·.2.2.1) RuleCheck.podExec.eval
    (fun ⟨secret, node, exec, result⟩ rule i => dangerousPass_exec rule i secret node exec result)
    clusterRole.rules (false, false, false, result)
  have hkinds := Trace.mem_foldl_zipIdx_collect dangerousPass (·.2.2.2.kinds)
    (fun rule k => k = ("PodExecAccess", SeverityMedium) ∧ RuleCheck.podExec.eval rule = true)
    (fun ⟨secret, node, exec, result⟩ rule i k => mem_kinds_dangerousPass rule i k secret node exec result)
    clusterRole.rules (false, false, false, result) k
  unfold checkDangerousPermissions
  generalize clusterRole.rules.zipIdx.foldl dangerousPass (false, false, false, result) = out
    at hsecret hnode hexec hkinds
  obtain ⟨secret, node, exec, result'⟩ := out
  dsimp only at hsecret hnode hexec hkinds ⊢
  rw [mem_kinds_ite_appendFinding, mem_kinds_ite_appendFinding, hkinds, hsecret, hnode, hexec]
  simp only [Bool.false_or, Bool.and_eq_true, List.any_eq_true, or_assoc]

-- ---------------------------------------------------------------------------
-- Whole roles
-- ---------------------------------------------------------------------------

theorem mem_kinds_ValidateClusterRole (clusterRole : ClusterRole) (k : String × String) :
    k ∈ (ValidateClusterRole clusterRole).kinds ↔ Reports clusterRole k := by
  unfold ValidateClusterRole Reports
  dsimp only
  rw [kinds_setValid, mem_kinds_checkDangerousPermissions, mem_kinds_checkOverlyBroadPermissions,
    mem_kinds_validateRules]
  simp only [kinds_empty, List.not_mem_nil, false_or, or_assoc]

end RBACValidator

-- ---------------------------------------------------------------------------
-- Covering the rules of a role
-- ---------------------------------------------------------------------------

section Covered

variable {R R' : ClusterRole} (hcover : ∀ rule ∈ R.rules, ∃ rule' ∈ R'.rules, rule.Subsumed rule')
include hcover

theorem RuleCheck.exists_of_covered (c : RuleCheck) :
    (∃ rule ∈ R.rules, c.eval rule = true) → ∃ rule' ∈ R'.rules, c.eval rule' = true := by
  rintro ⟨rule, hrule, hc⟩
  obtain ⟨rule', hrule', hsub⟩ := hcover rule hrule
  exact ⟨rule', hrule', RuleCheck.eval_mono hsub c hc⟩

theorem Reports.of_covered {k : String × String} (h : Reports R k) : Reports R' k := by
  have hcheck := RuleCheck.exists_of_covered hcover
  -- each kind is found by some rule passing a check, or by flags each set by some rule
  rcases h with ⟨rule, hrule, p, hp, hk, hc⟩ | hrbac | ⟨hk, hcore, hrbac⟩ | hexec | ⟨hk, hsecret, hnode⟩ |
    ⟨hk, hsecret, hexec⟩
  · obtain ⟨rule', hrule', hsub⟩ := hcover rule hrule
    exact .inl ⟨rule', hrule', p, hp, hk, RuleCheck.eval_mono hsub p.2 hc⟩
  · obtain ⟨rule, hrule, hk, hc⟩ := hrbac
    obtain ⟨rule', hrule', hc'⟩ := hcheck _ ⟨rule, hrule, hc⟩
    exact .inr (.inl ⟨rule', hrule', hk, hc'⟩)
  · exact .inr (.inr (.inl ⟨hk, hcheck _ hcore, hcheck _ hrbac⟩))
  · obtain ⟨rule, hrule, hk, hc⟩ := hexec
    obtain ⟨rule', hrule', hc'⟩ := hcheck _ ⟨rule, hrule, hc⟩
    exact .inr (.inr (.inr (.inl ⟨rule', hrule', hk, hc'⟩)))
  · exact .inr (.inr (.inr (.inr (.inl ⟨hk, hcheck _ hsecret, hcheck _ hnode⟩))))
  · exact .inr (.inr (.inr (.inr (.inr ⟨hk, hcheck _ hsecret, hcheck _ hexec⟩))))

/-- Every kind of finding reported for a role is reported for a role whose
rules cover its rules. -/
theorem ValidateClusterRole_kinds_of_covered :
    ∀ k ∈ (RBACValidator.ValidateClusterRole R).kinds, k ∈ (RBACValidator.ValidateClusterRole R').kinds := by
  intro k hk
  rw [RBACValidator.mem_kinds_ValidateClusterRole] at hk ⊢
  exact hk.of_covered hcover

/-- Merging rules, or adding names and rules, never lowers the highest
severity reported. -/
theorem ValidateClusterRole_monotone_in_rules :
    (RBACValidator.ValidateClusterRole R).highestSeverity ≤ (RBACValidator.ValidateClusterRole R').highestSeverity :=
  RBACValidationResult.highestSeverity_mono (ValidateClusterRole_kinds_of_covered hcover)

end Covered

-- ---------------------------------------------------------------------------
-- What the rules grant
-- ---------------------------------------------------------------------------

/-- The (API group, resource, verb) triples a rule grants, `*` granting all. -/
def PolicyRule.Grants (rule : PolicyRule) (apiGroup resource verb : String) : Prop :=
  (apiGroup ∈ rule.apiGroups ∨ "*" ∈ rule.apiGroups) ∧ (resource ∈ rule.resources ∨ "*" ∈ rule.resources) ∧
    (verb ∈ rule.verbs ∨ "*" ∈ rule.verbs)

def ClusterRole.Grants (clusterRole : ClusterRole) (apiGroup resource verb : String) : Prop :=
  ∃ rule ∈ clusterRole.rules, rule.Grants apiGroup resource verb

/-- Create, delete and patch on secrets, in one rule. -/
def secretsWriteRule : PolicyRule :=
  { apiGroups := [""], resources := ["secrets"], verbs := ["create", "delete", "patch"] }

def secretsWriter : ClusterRole := { name := "beskar7-secrets-writer", rules := [secretsWriteRule] }

/-- The same permissions, a rule for each verb. -/
def splitSecretsWriter : ClusterRole :=
  { secretsWriter with rules := secretsWriteRule.verbs.map fun verb => { secretsWriteRule with verbs := [verb] } }

theorem split_secrets_rules_within_merged :
    (∀ rule ∈ splitSecretsWriter.rules, ∃ rule' ∈ secretsWriter.rules, rule.Subsumed rule') ∧
      (RBACValidator.ValidateClusterRole splitSecretsWriter).highestSeverity ≤
        (RBACValidator.ValidateClusterRole secretsWriter).highestSeverity := by
  have hcover : ∀ rule ∈ splitSecretsWriter.rules, ∃ rule' ∈ secretsWriter.rules, rule.Subsumed rule' := by
    decide
  exact ⟨hcover, ValidateClusterRole_monotone_in_rules hcover⟩

/-- Granting more does not report more: `secretsWriter` and
`splitSecretsWriter` grant the same triples, and the first is reported HIGH,
the second nothing. -/
theorem split_secrets_rules_lower_severity :
    ¬∀ R R' : ClusterRole, (∀ apiGroup resource verb, R.Grants apiGroup resource verb → R'.Grants apiGroup resource verb) →
      (RBACValidator.ValidateClusterRole R).highestSeverity ≤ (RBACValidator.ValidateClusterRole R').highestSeverity := by
  intro hmono
  have hgrants : ∀ apiGroup resource verb,
      secretsWriter.Grants apiGroup resource verb → splitSecretsWriter.Grants apiGroup resource verb := by
    rintro apiGroup resource verb ⟨rule, hrule, hgroup, hresource, hverb⟩
    simp only [secretsWriter, List.mem_singleton] at hrule
    subst hrule
    simp only [secretsWriteRule, List.mem_cons, List.not_mem_nil, or_false] at hverb
    -- the verb is one of the three, each with a rule of its own; the rule names no wildcard verb
    refine ⟨{ secretsWriteRule with verbs := [verb] }, ?_, hgroup, hresource, .inl (List.mem_singleton_self verb)⟩
    rcases hverb with (rfl | rfl | rfl) | hwild
    · decide
    · decide
    · decide
    · exact absurd hwild (by decide)
  have hhigh : (RBACValidator.ValidateClusterRole secretsWriter).highestSeverity = 3 := by decide
  have hnone : (RBACValidator.ValidateClusterRole splitSecretsWriter).highestSeverity = 0 := by decide
  have hle := hmono secretsWriter splitSecretsWriter hgrants
  rw [hhigh, hnone] at hle
  exact absurd hle (by decide)

end Beskar7
