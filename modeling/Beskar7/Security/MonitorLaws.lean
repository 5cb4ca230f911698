import Beskar7.Security.Monitor
import Beskar7.Security.TLSLaws
import Beskar7.Security.RBACLaws

/-!
# What a scan of the security monitor reports

Each pass of a scan's loops appends the findings of one host, ClusterRole
or secret to one list of the report and changes nothing else, so a scan's
findings are those of its items in order (`runSecurityScan_fst`).
-/

namespace Beskar7

open GoString

/-- The keys `calculateTotals` starts its map with. -/
def severityLevels : List String := [SeverityCritical, SeverityHigh, SeverityMedium, SeverityLow]

/-- Where every severity is one of the four levels, the counts of the levels add up to all. -/
theorem count_severityLevels {l : List String} (hl : ∀ s ∈ l, s ∈ severityLevels) :
    l.count SeverityCritical + l.count SeverityHigh + l.count SeverityMedium + l.count SeverityLow = l.length := by
  have h : ∑ s ∈ severityLevels.toFinset, (l : Multiset String).count s = Multiset.card (l : Multiset String) :=
    Multiset.sum_count_eq_card (by simpa using hl)
  -- the four levels are distinct strings
  simp [severityLevels, SeverityCritical, SeverityHigh, SeverityMedium, SeverityLow, Finset.sum_insert] at h
  simpa [SeverityCritical, SeverityHigh, SeverityMedium, SeverityLow, add_assoc] using h

namespace SecurityReport

variable {report : SecurityReport}

@[simp] theorem tlsFindings_appendTLSFinding (finding : TLSSecurityFinding) :
    (report.appendTLSFinding finding).tlsFindings = report.tlsFindings ++ [finding] :=
  rfl

@[simp] theorem secretFindings_appendSecretFinding (finding : SecretSecurityFinding) :
    (report.appendSecretFinding finding).secretFindings = report.secretFindings ++ [finding] :=
  rfl

@[simp] theorem tlsFindings_appendRecommendation (recommendation : SecurityRecommendation) :
    (report.appendRecommendation recommendation).tlsFindings = report.tlsFindings :=
  rfl

@[simp] theorem rbacFindings_appendRecommendation (recommendation : SecurityRecommendation) :
    (report.appendRecommendation recommendation).rbacFindings = report.rbacFindings :=
  rfl

@[simp] theorem secretFindings_appendRecommendation (recommendation : SecurityRecommendation) :
    (report.appendRecommendation recommendation).secretFindings = report.secretFindings :=
  rfl

@[simp] theorem generalFindings_appendRecommendation (recommendation : SecurityRecommendation) :
    (report.appendRecommendation recommendation).generalFindings = report.generalFindings :=
  rfl

@[simp] theorem recommendations_appendRecommendation (recommendation : SecurityRecommendation) :
    (report.appendRecommendation recommendation).recommendations = report.recommendations ++ [recommendation] :=
  rfl

/-- The severities of a report's findings, in the order `calculateTotals` counts them. -/
def severities (report : SecurityReport) : List String :=
  report.tlsFindings.map (·.severity) ++ report.rbacFindings.map (·.severity) ++
    report.secretFindings.map (·.severity) ++ report.generalFindings.map (·.severity)

end SecurityReport

namespace SecurityMonitor

variable (m : SecurityMonitor) (env : ScanEnv) (now : Duration) (clock : Nat → Duration)
  (report : SecurityReport)

-- ---------------------------------------------------------------------------
-- One pass
-- ---------------------------------------------------------------------------

/-- The TLS findings of one host, which its pass appends. -/
def hostTLSFindings (tls : TLSEnv) (host : PhysicalHost) : List TLSSecurityFinding :=
  (m.scanHostTLS tls now { timestamp := 0 } host).tlsFindings

def clusterRoleFindings (clusterRole : ClusterRole) : List RBACSecurityFinding :=
  (scanClusterRole { timestamp := 0 } clusterRole).rbacFindings

def secretItemFindings (item : SecretItem) : List SecretSecurityFinding :=
  (scanSecret now { timestamp := 0 } item).secretFindings

theorem scanHostTLS_eq (tls : TLSEnv) (host : PhysicalHost) :
    m.scanHostTLS tls now report host =
      { report with tlsFindings := report.tlsFindings ++ m.hostTLSFindings now tls host } := by
  unfold hostTLSFindings scanHostTLS
  dsimp only
  split_ifs <;> simp [SecurityReport.appendTLSFinding]

theorem scanClusterRole_eq (clusterRole : ClusterRole) :
    scanClusterRole report clusterRole =
      { report with rbacFindings := report.rbacFindings ++ clusterRoleFindings clusterRole } := by
  unfold clusterRoleFindings scanClusterRole
  dsimp only
  split_ifs <;> simp

theorem scanSecret_eq (item : SecretItem) :
    scanSecret now report item = { report with secretFindings := report.secretFindings ++ secretItemFindings now item } := by
  unfold secretItemFindings scanSecret
  dsimp only
  split_ifs <;> simp [SecurityReport.appendSecretFinding]

-- ---------------------------------------------------------------------------
-- Whole scans
-- ---------------------------------------------------------------------------

theorem foldl_scanHostTLS (tls : TLSEnv) (hosts : List PhysicalHost) :
    hosts.foldl (m.scanHostTLS tls now) report =
      { report with tlsFindings := report.tlsFindings ++ hosts.flatMap (m.hostTLSFindings now tls) } :=
  Trace.foldl_update _ SecurityReport.tlsFindings (fun r l => { r with tlsFindings := l }) _
    (fun r host => m.scanHostTLS_eq now r tls host) (fun _ _ => rfl) (fun _ _ _ => rfl) (fun _ => rfl) hosts report

theorem foldl_scanClusterRole (clusterRoles : List ClusterRole) :
    clusterRoles.foldl scanClusterRole report =
      { report with rbacFindings := report.rbacFindings ++ clusterRoles.flatMap clusterRoleFindings } :=
  Trace.foldl_update _ SecurityReport.rbacFindings (fun r l => { r with rbacFindings := l }) _
    (fun r clusterRole => scanClusterRole_eq r clusterRole) (fun _ _ => rfl) (fun _ _ _ => rfl) (fun _ => rfl)
    clusterRoles report

theorem foldl_scanSecret (items : List SecretItem) :
    items.foldl (scanSecret now) report =
      { report with secretFindings := report.secretFindings ++ items.flatMap (secretItemFindings now) } :=
  Trace.foldl_update _ SecurityReport.secretFindings (fun r l => { r with secretFindings := l }) _
    (fun r item => scanSecret_eq now r item) (fun _ _ => rfl) (fun _ _ _ => rfl) (fun _ => rfl) items report

/-- The findings of a scan by kind, from what its Lists answer; a List that
fails gives none. -/
def tlsScanFindings : List TLSSecurityFinding :=
  match env.physicalHosts with
  | .ok physicalHosts => physicalHosts.flatMap (m.hostTLSFindings now env.tls)
  | .error _ => []

def rbacScanFindings : List RBACSecurityFinding :=
  match env.clusterRoles with
  | .ok clusterRoles => clusterRoles.flatMap clusterRoleFindings
  | .error _ => []

def secretScanFindings : List SecretSecurityFinding :=
  match env.secrets with
  | .ok secrets => secrets.flatMap (secretItemFindings now)
  | .error _ => []

/-- The report of a scan before its recommendations and totals. -/
def scanned : SecurityReport :=
  { timestamp := now, tlsFindings := m.tlsScanFindings env now, rbacFindings := rbacScanFindings env,
    secretFindings := secretScanFindings env now }

theorem runSecurityScan_fst (events : Store CoreEvent) :
    (m.runSecurityScan env now clock events).1 = calculateTotals (generateRecommendations (m.scanned env now)) := by
  unfold runSecurityScan scanPhysicalHostsTLS scanRBACConfigurations scanSecrets scanned tlsScanFindings
    rbacScanFindings secretScanFindings
  -- each List answers or fails on its own
  cases env.physicalHosts <;> cases env.clusterRoles <;> cases env.secrets <;>
    simp [foldl_scanHostTLS, foldl_scanClusterRole, foldl_scanSecret]

section Frames

variable (r : SecurityReport)

@[simp] theorem generateRecommendations_tlsFindings : (generateRecommendations r).tlsFindings = r.tlsFindings := by
  unfold generateRecommendations
  dsimp only
  split_ifs <;> rfl

@[simp] theorem generateRecommendations_rbacFindings : (generateRecommendations r).rbacFindings = r.rbacFindings := by
  unfold generateRecommendations
  dsimp only
  split_ifs <;> rfl

@[simp] theorem generateRecommendations_secretFindings :
    (generateRecommendations r).secretFindings = r.secretFindings := by
  unfold generateRecommendations
  dsimp only
  split_ifs <;> rfl

@[simp] theorem generateRecommendations_generalFindings :
    (generateRecommendations r).generalFindings = r.generalFindings := by
  unfold generateRecommendations
  dsimp only
  split_ifs <;> rfl

@[simp] theorem calculateTotals_tlsFindings : (calculateTotals r).tlsFindings = r.tlsFindings := rfl

@[simp] theorem calculateTotals_rbacFindings : (calculateTotals r).rbacFindings = r.rbacFindings := rfl

@[simp] theorem calculateTotals_secretFindings : (calculateTotals r).secretFindings = r.secretFindings := rfl

@[simp] theorem calculateTotals_generalFindings : (calculateTotals r).generalFindings = r.generalFindings := rfl

@[simp] theorem calculateTotals_recommendations : (calculateTotals r).recommendations = r.recommendations := rfl

end Frames

/-- The titles of the recommendations, one for each kind of finding there is. -/
theorem generateRecommendations_titles (r : SecurityReport) :
    (generateRecommendations r).recommendations.map (·.title) =
      r.recommendations.map (·.title) ++
        (if r.tlsFindings.any (·.type == "InsecureSkipVerify") then ["Disable insecureSkipVerify"] else []) ++
        (if r.tlsFindings.any (·.type == "TLSError") then ["Fix TLS Certificate Issues"] else []) ++
        (if r.rbacFindings.any (·.overlyBroad) then ["Reduce RBAC Permissions"] else []) ++
        (if r.secretFindings.any (fun finding => finding.type == "OldCredentials" || finding.type == "VeryOldCredentials")
          then ["Implement Credential Rotation"] else []) := by
  unfold generateRecommendations
  dsimp only
  -- the checks read the findings, which the recommendations before them leave alone
  simp only [SecurityReport.rbacFindings_appendRecommendation, SecurityReport.secretFindings_appendRecommendation,
    apply_ite SecurityReport.rbacFindings, apply_ite SecurityReport.secretFindings, ite_self]
  split_ifs <;> simp

theorem foldl_increment {α : Type} (severity : α → String) (l : List α) (c : String → Nat) (x : String) :
    l.foldl (fun c a => increment c (severity a)) c x = c x + (l.map severity).count x := by
  have hstep : ∀ c a y, increment c (severity a) y = c y + if severity a = y then 1 else 0 := by
    intro c a y
    by_cases h : severity a = y
    · subst h
      simp [increment]
    · simp [increment, Ne.symm h, h]
  rw [Trace.foldl_count _ severity hstep l c x, List.count_eq_countP, List.countP_map]
  -- `decide (s = x)` and `s == x` count the same
  congr 1

/-- The counts of a report are those of its severities. -/
theorem calculateTotals_counts (r : SecurityReport) :
    (calculateTotals r).criticalIssues = r.severities.count SeverityCritical ∧
      (calculateTotals r).highIssues = r.severities.count SeverityHigh ∧
      (calculateTotals r).mediumIssues = r.severities.count SeverityMedium ∧
      (calculateTotals r).lowIssues = r.severities.count SeverityLow := by
  unfold calculateTotals SecurityReport.severities
  simp only [foldl_increment, List.count_append, Nat.zero_add, and_self]

theorem calculateTotals_totalIssues (r : SecurityReport) :
    (calculateTotals r).totalIssues = (calculateTotals r).criticalIssues + (calculateTotals r).highIssues +
      (calculateTotals r).mediumIssues + (calculateTotals r).lowIssues :=
  rfl

-- ---------------------------------------------------------------------------
-- The findings of one host
-- ---------------------------------------------------------------------------

section Host

variable {tls : TLSEnv} {host : PhysicalHost}

/-- What the validator finds for the endpoint of a host. -/
abbrev endpointResult (tls : TLSEnv) (host : PhysicalHost) : ValidationResult :=
  m.tlsValidator.ValidateTLSEndpoint tls now host.spec.redfishConnection.address

/-- What the pass of a host appends: the finding on skipped verification,
then one for each warning and each error of its endpoint. -/
theorem hostTLSFindings_eq :
    m.hostTLSFindings now tls host =
      (if host.spec.redfishConnection.insecureSkipVerify = some true then
          [insecureSkipVerifyFinding ("PhysicalHost/" ++ host.metadata.name)] else []) ++
        (if host.spec.redfishConnection.address ≠ "" then
          (m.endpointResult now tls host).warnings.map (tlsWarningFinding ("PhysicalHost/" ++ host.metadata.name)
              ("Endpoint: " ++ host.spec.redfishConnection.address) (m.endpointResult now tls host)) ++
            (m.endpointResult now tls host).errors.map (tlsErrorFinding ("PhysicalHost/" ++ host.metadata.name)
              ("Endpoint: " ++ host.spec.redfishConnection.address) (m.endpointResult now tls host))
        else []) := by
  unfold hostTLSFindings scanHostTLS
  dsimp only
  split_ifs <;> simp

/-- Each finding of a host is of one of three kinds, a TLS error HIGH unless
the endpoint's certificate is self-signed. -/
theorem hostTLSFindings_kind {f : TLSSecurityFinding} (hf : f ∈ m.hostTLSFindings now tls host) :
    (f.type = "InsecureSkipVerify" ∧ f.severity = SeverityMedium) ∨ (f.type = "TLSWarning" ∧ f.severity = SeverityLow) ∨
      (f.type = "TLSError" ∧ host.spec.redfishConnection.address ≠ "" ∧ f.description ∈ (m.endpointResult now tls host).errors ∧
        f.severity = if (m.endpointResult now tls host).isSelfSigned then SeverityMedium else SeverityHigh) := by
  rw [hostTLSFindings_eq] at hf
  simp only [List.mem_append, List.mem_ite_nil_right, List.mem_singleton, List.mem_map] at hf
  rcases hf with ⟨-, rfl⟩ | ⟨haddress, ⟨w, -, rfl⟩ | ⟨e, he, rfl⟩⟩
  · exact .inl ⟨rfl, rfl⟩
  · exact .inr (.inl ⟨rfl, rfl⟩)
  · exact .inr (.inr ⟨rfl, haddress, he, rfl⟩)

theorem any_insecure_hostTLSFindings :
    (m.hostTLSFindings now tls host).any (·.type == "InsecureSkipVerify") = true ↔
      host.spec.redfishConnection.insecureSkipVerify = some true := by
  rw [hostTLSFindings_eq]
  -- warnings and errors are of other types, whatever the endpoint gives
  by_cases hinsecure : host.spec.redfishConnection.insecureSkipVerify = some true <;>
    by_cases haddress : host.spec.redfishConnection.address = "" <;>
    simp [hinsecure, haddress, List.any_map, Function.comp_def, insecureSkipVerifyFinding, tlsWarningFinding,
      tlsErrorFinding]

theorem any_tlsError_hostTLSFindings :
    (m.hostTLSFindings now tls host).any (·.type == "TLSError") = true ↔
      host.spec.redfishConnection.address ≠ "" ∧ (m.endpointResult now tls host).errors ≠ [] := by
  rw [hostTLSFindings_eq]
  by_cases hinsecure : host.spec.redfishConnection.insecureSkipVerify = some true <;>
    by_cases haddress : host.spec.redfishConnection.address = "" <;>
    simp [hinsecure, haddress, List.any_map, Function.comp_def, insecureSkipVerifyFinding, tlsWarningFinding,
      tlsErrorFinding, List.any_eq_true]
  all_goals rw [← List.isEmpty_eq_false_iff_exists_mem]; simp

end Host

theorem severity_mem_hostTLSFindings {tls : TLSEnv} {host : PhysicalHost} {f : TLSSecurityFinding}
    (hf : f ∈ m.hostTLSFindings now tls host) : f.severity ∈ severityLevels := by
  rcases m.hostTLSFindings_kind now hf with ⟨-, h⟩ | ⟨-, h⟩ | ⟨-, -, -, h⟩ <;> rw [h]
  · simp [severityLevels]
  · simp [severityLevels]
  · split <;> simp [severityLevels]

-- ---------------------------------------------------------------------------
-- The findings of one ClusterRole
-- ---------------------------------------------------------------------------

section Roles

open RBACValidator RBACValidationResult

variable {clusterRole : ClusterRole}

theorem Reports.severity_mem {k : String × String} (h : Reports clusterRole k) : k.2 ∈ severityLevels := by
  rcases h with ⟨-, -, p, hp, rfl, -⟩ | ⟨-, -, rfl, -⟩ | ⟨rfl, -⟩ | ⟨-, -, rfl, -⟩ | ⟨rfl, -⟩ | ⟨rfl, -⟩
  · simp only [validateRuleChecks, List.mem_cons, List.not_mem_nil, or_false] at hp
    rcases hp with rfl | rfl | rfl | rfl | rfl <;> simp [severityLevels]
  all_goals simp [severityLevels]

/-- The kinds the monitor marks as overly broad are found only in a rule
with the wildcard verb. -/
theorem Reports.wildcard_verb {k : String × String} (h : Reports clusterRole k)
    (hk : k.1 = "ClusterAdminEquivalent" ∨ k.1 = "OverlyBroadVerbs" ∨ k.1 = "OverlyBroadRule") :
    ∃ rule ∈ clusterRole.rules, "*" ∈ rule.verbs := by
  rcases h with ⟨rule, hrule, p, hp, rfl, heval⟩ | ⟨-, -, rfl, -⟩ | ⟨rfl, -⟩ | ⟨-, -, rfl, -⟩ | ⟨rfl, -⟩ | ⟨rfl, -⟩
  · refine ⟨rule, hrule, ?_⟩
    simp only [validateRuleChecks, List.mem_cons, List.not_mem_nil, or_false] at hp
    -- the checks of the three kinds all look for the wildcard verb; the other two are other kinds
    rcases hp with rfl | rfl | rfl | rfl | rfl <;>
      simp_all [RuleCheck.eval, RuleCheck.allWildcard, RuleCheck.wildcardVerbs, PolicyRule.field,
        containsString_eq_true]
  all_goals simp at hk

theorem Reports.overlyBroadVerbs {rule : PolicyRule} (hrule : rule ∈ clusterRole.rules) (hverb : "*" ∈ rule.verbs) :
    Reports clusterRole ("OverlyBroadVerbs", SeverityHigh) :=
  .inl ⟨rule, hrule, (("OverlyBroadVerbs", SeverityHigh), .wildcardVerbs), by simp [validateRuleChecks], rfl,
    by simp [RuleCheck.eval, RuleCheck.wildcardVerbs, PolicyRule.field, containsString_eq_true, hverb]⟩

theorem clusterRoleFindings_eq :
    clusterRoleFindings clusterRole =
      if isBeskar7Related clusterRole.name then
        (ValidateClusterRole clusterRole).securityFindings.map
            (rbacSecurityFinding ("ClusterRole/" ++ clusterRole.name) clusterRole) ++
          (ValidateClusterRole clusterRole).overlyBroadRules.map (overlyBroadRuleFinding ("ClusterRole/" ++ clusterRole.name))
      else [] := by
  unfold clusterRoleFindings scanClusterRole
  dsimp only
  split_ifs <;> simp_all

/-- A finding of a role is a kind the validator reports for it. -/
theorem kind_mem_of_mem_clusterRoleFindings {f : RBACSecurityFinding} (hf : f ∈ clusterRoleFindings clusterRole) :
    isBeskar7Related clusterRole.name = true ∧ (f.type, f.severity) ∈ (ValidateClusterRole clusterRole).kinds := by
  rw [clusterRoleFindings_eq] at hf
  split_ifs at hf with hrelated
  · simp only [List.mem_append, List.mem_map] at hf
    refine ⟨hrelated, ?_⟩
    rcases hf with ⟨finding, hfinding, rfl⟩ | ⟨rule, hrule, rfl⟩
    · exact List.mem_append_left _ (List.mem_map_of_mem (f := fun f => (f.type, f.severity)) hfinding)
    · exact List.mem_append_right _ (List.mem_map_of_mem (f := fun r => ("OverlyBroadRule", r.severity)) hrule)
  · simp at hf

theorem type_of_overlyBroad {f : RBACSecurityFinding} (hf : f ∈ clusterRoleFindings clusterRole)
    (hbroad : f.overlyBroad = true) :
    f.type = "ClusterAdminEquivalent" ∨ f.type = "OverlyBroadVerbs" ∨ f.type = "OverlyBroadRule" := by
  rw [clusterRoleFindings_eq] at hf
  split_ifs at hf
  · simp only [List.mem_append, List.mem_map] at hf
    rcases hf with ⟨finding, -, rfl⟩ | ⟨rule, -, rfl⟩
    · have htype : finding.type = "ClusterAdminEquivalent" ∨ finding.type = "OverlyBroadVerbs" := by
        simpa [rbacSecurityFinding] using hbroad
      exact htype.imp_right Or.inl
    · simp [overlyBroadRuleFinding]
  · simp at hf

theorem severity_mem_clusterRoleFindings {f : RBACSecurityFinding} (hf : f ∈ clusterRoleFindings clusterRole) :
    f.severity ∈ severityLevels :=
  Reports.severity_mem ((mem_kinds_ValidateClusterRole clusterRole _).mp (kind_mem_of_mem_clusterRoleFindings hf).2)

/-- A role's findings have one the monitor reads as overly broad exactly when
the role is Beskar7's and one of its rules has the wildcard verb. -/
theorem any_overlyBroad_clusterRoleFindings :
    (clusterRoleFindings clusterRole).any (·.overlyBroad) = true ↔
      isBeskar7Related clusterRole.name = true ∧ ∃ rule ∈ clusterRole.rules, "*" ∈ rule.verbs := by
  rw [List.any_eq_true]
  constructor
  · rintro ⟨f, hf, hbroad⟩
    obtain ⟨hrelated, hkind⟩ := kind_mem_of_mem_clusterRoleFindings hf
    exact ⟨hrelated, Reports.wildcard_verb ((mem_kinds_ValidateClusterRole clusterRole _).mp hkind)
      (type_of_overlyBroad hf hbroad)⟩
  · rintro ⟨hrelated, rule, hrule, hverb⟩
    -- the wildcard verb is reported as a finding, which is not an overly broad rule's kind
    have hkind := (mem_kinds_ValidateClusterRole clusterRole _).mpr (Reports.overlyBroadVerbs hrule hverb)
    simp only [kinds, List.mem_append, List.mem_map, Prod.mk.injEq] at hkind
    rcases hkind with ⟨finding, hfinding, htype, -⟩ | ⟨-, -, hne, -⟩
    · refine ⟨rbacSecurityFinding ("ClusterRole/" ++ clusterRole.name) clusterRole finding, ?_, ?_⟩
      · rw [clusterRoleFindings_eq, if_pos hrelated]
        exact List.mem_append_left _ (List.mem_map_of_mem hfinding)
      · simp [rbacSecurityFinding, htype]
    · simp at hne

end Roles

-- ---------------------------------------------------------------------------
-- The findings of one secret
-- ---------------------------------------------------------------------------

section Secrets

variable {item : SecretItem}

/-- The age `scanSecret` reads, in nanoseconds. -/
abbrev secretAge (now : Duration) (item : SecretItem) : Int := (now : Int) - (item.creationTimestamp * second : Nat)

theorem severity_mem_secretItemFindings {f : SecretSecurityFinding} (hf : f ∈ secretItemFindings now item) :
    f.severity ∈ severityLevels := by
  unfold secretItemFindings scanSecret at hf
  dsimp only at hf
  split_ifs at hf <;> simp at hf <;> rcases hf with rfl | rfl | rfl | rfl <;> simp [severityLevels, SeverityMedium]

/-- A secret gets a finding on its age exactly when it is a credential
secret more than 90 days old. -/
theorem any_old_secretItemFindings :
    (secretItemFindings now item).any (fun finding => finding.type == "OldCredentials" ||
        finding.type == "VeryOldCredentials") = true ↔
      isCredentialSecret item.secret = true ∧ secretAge now item > ((90 * 24 * hour : Nat) : Int) := by
  -- a secret older than a year is older than 90 days
  have hyear : secretAge now item > ((365 * 24 * hour : Nat) : Int) → secretAge now item > ((90 * 24 * hour : Nat) : Int) := by
    simp only [hour, minute, second]
    omega
  unfold secretItemFindings scanSecret
  dsimp only
  by_cases hcred : isCredentialSecret item.secret = true
  · by_cases h90 : secretAge now item > ((90 * 24 * hour : Nat) : Int)
    · split_ifs <;> simp_all
    · have h365 := mt hyear h90
      split_ifs <;> simp_all
  · simp [hcred]

end Secrets

-- ---------------------------------------------------------------------------
-- Whole scans
-- ---------------------------------------------------------------------------

theorem any_tlsScanFindings (p : TLSSecurityFinding → Bool) :
    (m.tlsScanFindings env now).any p = true ↔
      ∃ hosts, env.physicalHosts = .ok hosts ∧ ∃ host ∈ hosts, (m.hostTLSFindings now env.tls host).any p = true := by
  unfold tlsScanFindings
  cases env.physicalHosts <;> simp [List.any_flatMap]

theorem any_rbacScanFindings (p : RBACSecurityFinding → Bool) :
    (rbacScanFindings env).any p = true ↔
      ∃ clusterRoles, env.clusterRoles = .ok clusterRoles ∧
        ∃ clusterRole ∈ clusterRoles, (clusterRoleFindings clusterRole).any p = true := by
  unfold rbacScanFindings
  cases env.clusterRoles <;> simp [List.any_flatMap]

theorem any_secretScanFindings (p : SecretSecurityFinding → Bool) :
    (secretScanFindings env now).any p = true ↔
      ∃ items, env.secrets = .ok items ∧ ∃ item ∈ items, (secretItemFindings now item).any p = true := by
  unfold secretScanFindings
  cases env.secrets <;> simp [List.any_flatMap]

theorem severity_mem_scanned {s : String} (hs : s ∈ (m.scanned env now).severities) : s ∈ severityLevels := by
  unfold scanned SecurityReport.severities tlsScanFindings rbacScanFindings secretScanFindings at hs
  simp only [List.mem_append, List.mem_map] at hs
  rcases hs with ((⟨f, hf, rfl⟩ | ⟨f, hf, rfl⟩) | ⟨f, hf, rfl⟩) | ⟨f, hf, -⟩
  · split at hf <;> simp only [List.mem_flatMap, List.not_mem_nil] at hf
    obtain ⟨host, -, hf⟩ := hf
    exact m.severity_mem_hostTLSFindings now hf
  · split at hf <;> simp only [List.mem_flatMap, List.not_mem_nil] at hf
    obtain ⟨clusterRole, -, hf⟩ := hf
    exact severity_mem_clusterRoleFindings hf
  · split at hf <;> simp only [List.mem_flatMap, List.not_mem_nil] at hf
    obtain ⟨item, -, hf⟩ := hf
    exact severity_mem_secretItemFindings now hf
  · -- the general findings stay empty
    exact absurd hf List.not_mem_nil

@[simp] theorem severities_calculateTotals (r : SecurityReport) : (calculateTotals r).severities = r.severities :=
  rfl

@[simp] theorem severities_generateRecommendations (r : SecurityReport) :
    (generateRecommendations r).severities = r.severities := by
  simp [SecurityReport.severities]

/-- Every finding of a scan is counted in its total: each has one of the
four severities, whatever the cluster and the endpoints answer. -/
theorem runSecurityScan_totalIssues (events : Store CoreEvent) :
    (m.runSecurityScan env now clock events).1.totalIssues = (m.runSecurityScan env now clock events).1.severities.length := by
  obtain ⟨hc, hh, hm, hl⟩ := calculateTotals_counts (generateRecommendations (m.scanned env now))
  rw [runSecurityScan_fst, calculateTotals_totalIssues, hc, hh, hm, hl, severities_calculateTotals,
    severities_generateRecommendations]
  exact count_severityLevels fun s hs => m.severity_mem_scanned env now hs

-- ---------------------------------------------------------------------------
-- Recommendations of a scan
-- ---------------------------------------------------------------------------

/-- Which recommendations a report gets, read off its findings: the four
titles are distinct, so each stands for its own check. -/
theorem mem_titles_generateRecommendations (r : SecurityReport) (hr : r.recommendations = []) :
    ("Disable insecureSkipVerify" ∈ (generateRecommendations r).recommendations.map (·.title) ↔
        r.tlsFindings.any (·.type == "InsecureSkipVerify") = true) ∧
      ("Fix TLS Certificate Issues" ∈ (generateRecommendations r).recommendations.map (·.title) ↔
        r.tlsFindings.any (·.type == "TLSError") = true) ∧
      ("Reduce RBAC Permissions" ∈ (generateRecommendations r).recommendations.map (·.title) ↔
        r.rbacFindings.any (·.overlyBroad) = true) ∧
      ("Implement Credential Rotation" ∈ (generateRecommendations r).recommendations.map (·.title) ↔
        r.secretFindings.any (fun finding => finding.type == "OldCredentials" || finding.type == "VeryOldCredentials")
          = true) := by
  rw [generateRecommendations_titles, hr]
  simp only [List.map_nil, List.nil_append, List.mem_append, List.mem_ite_nil_right, List.mem_singleton]
  simp

theorem scanned_recommendations : (m.scanned env now).recommendations = [] :=
  rfl

theorem endpoint_valid_eq_false_iff (tls : TLSEnv) (endpoint : String) :
    (m.tlsValidator.ValidateTLSEndpoint tls now endpoint).valid = false ↔
      (m.tlsValidator.ValidateTLSEndpoint tls now endpoint).errors ≠ [] := by
  rw [ne_eq, ← TLSValidator.ValidateTLSEndpoint_valid_iff_errors, Bool.not_eq_true]

/-- A scan recommends to stop skipping verification exactly when a listed
host skips it, and to fix the certificates exactly when a listed host with
an address has an endpoint the validator finds invalid. -/
theorem runSecurityScan_tlsRecommendations (events : Store CoreEvent) :
    ("Disable insecureSkipVerify" ∈ (m.runSecurityScan env now clock events).1.recommendations.map (·.title) ↔
        ∃ hosts, env.physicalHosts = .ok hosts ∧
          ∃ host ∈ hosts, host.spec.redfishConnection.insecureSkipVerify = some true) ∧
      ("Fix TLS Certificate Issues" ∈ (m.runSecurityScan env now clock events).1.recommendations.map (·.title) ↔
        ∃ hosts, env.physicalHosts = .ok hosts ∧ ∃ host ∈ hosts, host.spec.redfishConnection.address ≠ "" ∧
          (m.tlsValidator.ValidateTLSEndpoint env.tls now host.spec.redfishConnection.address).valid = false) := by
  obtain ⟨hinsecure, herrors, -, -⟩ := mem_titles_generateRecommendations _ (m.scanned_recommendations env now)
  rw [runSecurityScan_fst, calculateTotals_recommendations, hinsecure, herrors]
  simp only [scanned, any_tlsScanFindings, any_insecure_hostTLSFindings, any_tlsError_hostTLSFindings,
    endpoint_valid_eq_false_iff, and_self]

/-- A scan recommends to reduce the RBAC permissions exactly when the
ClusterRoles can be listed and a Beskar7 role among them has a rule with
the wildcard verb. -/
theorem runSecurityScan_rbacRecommendation (events : Store CoreEvent) :
    "Reduce RBAC Permissions" ∈ (m.runSecurityScan env now clock events).1.recommendations.map (·.title) ↔
      ∃ clusterRoles, env.clusterRoles = .ok clusterRoles ∧ ∃ clusterRole ∈ clusterRoles,
        isBeskar7Related clusterRole.name = true ∧ ∃ rule ∈ clusterRole.rules, "*" ∈ rule.verbs := by
  obtain ⟨-, -, hbroad, -⟩ := mem_titles_generateRecommendations _ (m.scanned_recommendations env now)
  rw [runSecurityScan_fst, calculateTotals_recommendations, hbroad]
  simp only [scanned, any_rbacScanFindings, any_overlyBroad_clusterRoleFindings]

/-- A scan recommends rotating credentials exactly when the secrets can be
listed and one of them is a credential secret more than 90 days old. -/
theorem runSecurityScan_rotationRecommendation (events : Store CoreEvent) :
    "Implement Credential Rotation" ∈ (m.runSecurityScan env now clock events).1.recommendations.map (·.title) ↔
      ∃ items, env.secrets = .ok items ∧ ∃ item ∈ items, isCredentialSecret item.secret = true ∧
        (now : Int) - (item.creationTimestamp * second : Nat) > ((90 * 24 * hour : Nat) : Int) := by
  obtain ⟨-, -, -, hold⟩ := mem_titles_generateRecommendations _ (m.scanned_recommendations env now)
  rw [runSecurityScan_fst, calculateTotals_recommendations, hold]
  simp only [scanned, any_secretScanFindings, any_old_secretItemFindings]

end SecurityMonitor

end Beskar7
