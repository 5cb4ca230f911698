import Beskar7.Security.TLSValidator
import Beskar7.Security.RBACValidator
import Beskar7.Lib.GoString

/-!
# The security monitor

`SecurityMonitor` of `internal/security/monitor.go`. A scan lists the
PhysicalHosts and the secrets of the monitor's namespace and the
ClusterRoles of the cluster, and collects findings: from the TLS validator
on each host's Redfish endpoint, from the RBAC validator on each
Beskar7-related ClusterRole, and on the age and fields of each credential
secret. It then derives recommendations from the findings, counts them by
severity, and creates a Warning event for each CRITICAL or HIGH one.
`StartMonitoring` scans at the start and again at every tick.

A scan reads the cluster through the answers of `ScanEnv`. Its passes
happen at one instant `now`, in nanoseconds from the Unix epoch, and each
event it creates reads the clock again: the `i`-th create of a scan reads
`clock i`, which names the event and stamps it. A failed List is logged
and the scan goes on without that part. The API server refuses an event
whose name is taken, and the monitor logs the refusal.
-/

namespace Beskar7

open GoString

structure TLSSecurityFinding where
  severity : String
  type : String
  resource : String
  description : String
  details : String
  remediation : String
  expiry : Option Int := none
  deriving DecidableEq, Repr

structure RBACSecurityFinding where
  severity : String
  type : String
  resource : String
  description : String
  overlyBroad : Bool
  permissions : List String
  remediation : String
  deriving DecidableEq, Repr

/-- `lastRotated` is none where the source leaves the zero time. -/
structure SecretSecurityFinding where
  severity : String
  type : String
  resource : String
  description : String
  age : Int
  lastRotated : Option MetaTime := none
  remediation : String
  deriving DecidableEq, Repr

structure GeneralSecurityFinding where
  severity : String
  type : String
  resource : String
  description : String
  remediation : String
  deriving DecidableEq, Repr

structure SecurityRecommendation where
  priority : String
  title : String
  description : String
  action : String
  impact : String
  effort : String
  deriving DecidableEq, Repr

structure SecurityReport where
  timestamp : Duration
  totalIssues : Nat := 0
  criticalIssues : Nat := 0
  highIssues : Nat := 0
  mediumIssues : Nat := 0
  lowIssues : Nat := 0
  tlsFindings : List TLSSecurityFinding := []
  rbacFindings : List RBACSecurityFinding := []
  secretFindings : List SecretSecurityFinding := []
  generalFindings : List GeneralSecurityFinding := []
  recommendations : List SecurityRecommendation := []
  deriving DecidableEq, Repr

namespace SecurityReport

def appendTLSFinding (report : SecurityReport) (finding : TLSSecurityFinding) : SecurityReport :=
  { report with tlsFindings := report.tlsFindings ++ [finding] }

def appendSecretFinding (report : SecurityReport) (finding : SecretSecurityFinding) : SecurityReport :=
  { report with secretFindings := report.secretFindings ++ [finding] }

def appendRecommendation (report : SecurityReport) (recommendation : SecurityRecommendation) : SecurityReport :=
  { report with recommendations := report.recommendations ++ [recommendation] }

end SecurityReport

/-- `SecurityMonitor`; the RBAC validator is stateless, its client unused. -/
structure SecurityMonitor where
  ns : String
  tlsValidator : TLSValidator
  interval : Duration
  deriving DecidableEq, Repr

/-- An item of a `SecretList`: the secret, with the creation time of its metadata. -/
structure SecretItem where
  secret : Secret
  creationTimestamp : MetaTime
  deriving DecidableEq, Repr

/-- What a scan reads: the answers of its Lists, and the network behind each endpoint. -/
structure ScanEnv where
  physicalHosts : Except String (List PhysicalHost)
  clusterRoles : Except String (List ClusterRole)
  secrets : Except String (List SecretItem)
  tls : TLSEnv

-- ---------------------------------------------------------------------------
-- Events on the API server
-- ---------------------------------------------------------------------------

/-- `corev1.Event`, as `createSecurityEvent` fills it in. -/
structure CoreEvent where
  ns : String
  name : String
  involvedKind : String
  involvedName : String
  involvedNs : String
  reason : String
  message : String
  type : String
  sourceComponent : String
  firstTimestamp : Duration
  lastTimestamp : Duration
  count : Nat
  deriving DecidableEq, Repr

instance : HasKey CoreEvent ObjectKey := ⟨fun e => ⟨e.ns, e.name⟩⟩

theorem CoreEvent.key_def (e : CoreEvent) : key e = ⟨e.ns, e.name⟩ := rfl

/-- `Create` of an event: the API server refuses a name that is taken. -/
def createEvent (events : Store CoreEvent) (event : CoreEvent) : Except String (Store CoreEvent) :=
  if (events.get (key event)).isSome then .error ("events \"" ++ event.name ++ "\" already exists")
  else .ok (events.put event)

namespace SecurityMonitor

-- ---------------------------------------------------------------------------
-- Helpers
-- ---------------------------------------------------------------------------

def isBeskar7Related (name : String) : Bool :=
  let beskar7Patterns := ["beskar7", "manager-role", "controller", "infrastructure.cluster.x-k8s.io"]
  let lowerName := stringsToLower name
  beskar7Patterns.any (stringsContains lowerName ·)

def isCredentialSecret (secret : Secret) : Bool :=
  if (secret.data.lookup "username").isSome then true
  else if (secret.data.lookup "password").isSome then true
  else
    -- credential-like names
    let credentialPatterns := ["credential", "cred", "bmc", "redfish", "auth"]
    let lowerName := stringsToLower secret.metadata.name
    credentialPatterns.any (stringsContains lowerName ·)

def extractPermissions (clusterRole : ClusterRole) : List String :=
  clusterRole.rules.flatMap fun rule =>
    rule.verbs.flatMap fun verb => rule.resources.map fun resource => verb ++ ":" ++ resource

-- ---------------------------------------------------------------------------
-- Scans
-- ---------------------------------------------------------------------------

/-- The finding of a host whose connection skips certificate verification. -/
def insecureSkipVerifyFinding (resource : String) : TLSSecurityFinding :=
  { severity := "MEDIUM", type := "InsecureSkipVerify", resource,
    description := "TLS certificate verification is disabled", details := "insecureSkipVerify is set to true",
    remediation := "Configure proper TLS certificates or use a custom CA bundle" }

def tlsWarningFinding (resource details : String) (result : ValidationResult) (warning : String) :
    TLSSecurityFinding :=
  { severity := "LOW", type := "TLSWarning", resource, description := warning, details,
    remediation := "Review certificate configuration", expiry := result.expiry }

/-- An error of the validator, MEDIUM when the certificate is self-signed. -/
def tlsErrorFinding (resource details : String) (result : ValidationResult) (error : String) : TLSSecurityFinding :=
  { severity := if result.isSelfSigned then SeverityMedium else SeverityHigh, type := "TLSError", resource,
    description := error, details, remediation := "Fix certificate configuration or use proper CA-signed certificates",
    expiry := result.expiry }

/-- One pass of the loop of `scanPhysicalHostsTLS`. -/
def scanHostTLS (m : SecurityMonitor) (env : TLSEnv) (now : Duration) (report : SecurityReport) (host : PhysicalHost) :
    SecurityReport :=
  let conn := host.spec.redfishConnection
  let resource := "PhysicalHost/" ++ host.metadata.name
  let report :=
    if conn.insecureSkipVerify = some true then report.appendTLSFinding (insecureSkipVerifyFinding resource)
    else report
  if conn.address ≠ "" then
    -- the validator returns no error, and a result every time
    let result := m.tlsValidator.ValidateTLSEndpoint env now conn.address
    let details := "Endpoint: " ++ conn.address
    let report := { report with tlsFindings := report.tlsFindings ++ result.warnings.map (tlsWarningFinding resource details result) }
    { report with tlsFindings := report.tlsFindings ++ result.errors.map (tlsErrorFinding resource details result) }
  else report

def scanPhysicalHostsTLS (m : SecurityMonitor) (env : ScanEnv) (now : Duration) (report : SecurityReport) :
    Except String SecurityReport :=
  match env.physicalHosts with
  | .error err => .error ("failed to list PhysicalHosts: " ++ err)
  | .ok physicalHosts => .ok (physicalHosts.foldl (m.scanHostTLS env.tls now) report)

/-- A finding of the RBAC validator, on the role it was found in. -/
def rbacSecurityFinding (resource : String) (clusterRole : ClusterRole) (finding : SecurityFinding) :
    RBACSecurityFinding :=
  { severity := finding.severity, type := finding.type, resource, description := finding.description,
    overlyBroad := finding.type == "ClusterAdminEquivalent" || finding.type == "OverlyBroadVerbs",
    permissions := extractPermissions clusterRole, remediation := finding.remediation }

def overlyBroadRuleFinding (resource : String) (rule : OverlyBroadRule) : RBACSecurityFinding :=
  { severity := rule.severity, type := "OverlyBroadRule", resource, description := rule.reason,
    overlyBroad := true, permissions := rule.apiGroups ++ rule.resources ++ rule.verbs,
    remediation := "Apply principle of least privilege" }

/-- One pass of the loop of `scanRBACConfigurations`. -/
def scanClusterRole (report : SecurityReport) (clusterRole : ClusterRole) : SecurityReport :=
  if !isBeskar7Related clusterRole.name then report
  else
    let result := RBACValidator.ValidateClusterRole clusterRole
    let resource := "ClusterRole/" ++ clusterRole.name
    let report :=
      { report with
        rbacFindings := report.rbacFindings ++ result.securityFindings.map (rbacSecurityFinding resource clusterRole) }
    { report with
      rbacFindings := report.rbacFindings ++ result.overlyBroadRules.map (overlyBroadRuleFinding resource) }

def scanRBACConfigurations (env : ScanEnv) (report : SecurityReport) : Except String SecurityReport :=
  match env.clusterRoles with
  | .error err => .error ("failed to list ClusterRoles: " ++ err)
  | .ok clusterRoles => .ok (clusterRoles.foldl scanClusterRole report)

/-- One pass of the loop of `scanSecrets`. -/
def scanSecret (now : Duration) (report : SecurityReport) (item : SecretItem) : SecurityReport :=
  let secret := item.secret
  if !isCredentialSecret secret then report
  else
    let age : Int := (now : Int) - (item.creationTimestamp * second : Nat)
    let resource := "Secret/" ++ secret.metadata.name
    let report :=
      if age > ((90 * 24 * hour : Nat) : Int) then
        report.appendSecretFinding
          { severity := "MEDIUM", type := "OldCredentials", resource,
            description := "Credential secret is older than 90 days", age, lastRotated := some item.creationTimestamp,
            remediation := "Rotate credentials regularly (recommended: every 90 days)" }
      else report
    let report :=
      if age > ((365 * 24 * hour : Nat) : Int) then
        report.appendSecretFinding
          { severity := SeverityHigh, type := "VeryOldCredentials", resource,
            description := "Credential secret is older than 1 year", age, lastRotated := some item.creationTimestamp,
            remediation := "Rotate credentials immediately" }
      else report
    -- missing required fields
    let report :=
      if (secret.data.lookup "username").isNone then
        report.appendSecretFinding
          { severity := SeverityHigh, type := "MissingUsername", resource,
            description := "Credential secret missing username field", age,
            remediation := "Ensure secret contains required 'username' field" }
      else report
    if (secret.data.lookup "password").isNone then
      report.appendSecretFinding
        { severity := SeverityHigh, type := "MissingPassword", resource,
          description := "Credential secret missing password field", age,
          remediation := "Ensure secret contains required 'password' field" }
    else report

def scanSecrets (env : ScanEnv) (now : Duration) (report : SecurityReport) : Except String SecurityReport :=
  match env.secrets with
  | .error err => .error ("failed to list secrets: " ++ err)
  | .ok secrets => .ok (secrets.foldl (scanSecret now) report)

-- ---------------------------------------------------------------------------
-- Recommendations, totals and events
-- ---------------------------------------------------------------------------

def generateRecommendations (report : SecurityReport) : SecurityReport :=
  let hasInsecureSkipVerify := report.tlsFindings.any (·.type == "InsecureSkipVerify")
  let hasTLSErrors := report.tlsFindings.any (·.type == "TLSError")
  let report :=
    if hasInsecureSkipVerify then
      report.appendRecommendation
        { priority := SeverityHigh, title := "Disable insecureSkipVerify",
          description := "Multiple PhysicalHosts have TLS certificate verification disabled",
          action := "Configure proper TLS certificates or implement a custom CA bundle",
          impact := "Improves protection against man-in-the-middle attacks", effort := "Medium" }
    else report
  let report :=
    if hasTLSErrors then
      report.appendRecommendation
        { priority := SeverityHigh, title := "Fix TLS Certificate Issues",
          description := "TLS certificate validation errors found",
          action := "Review and fix certificate configuration for BMC endpoints",
          impact := "Ensures secure communication with hardware BMCs", effort := "Medium" }
    else report
  let hasOverlyBroad := report.rbacFindings.any (·.overlyBroad)
  let report :=
    if hasOverlyBroad then
      report.appendRecommendation
        { priority := SeverityCritical, title := "Reduce RBAC Permissions",
          description := "Overly broad RBAC permissions detected",
          action := "Apply principle of least privilege to RBAC configurations",
          impact := "Significantly reduces attack surface and improves security posture", effort := "High" }
    else report
  let hasOldSecrets :=
    report.secretFindings.any fun finding => finding.type == "OldCredentials" || finding.type == "VeryOldCredentials"
  if hasOldSecrets then
    report.appendRecommendation
      { priority := "MEDIUM", title := "Implement Credential Rotation",
        description := "Old credential secrets found that should be rotated",
        action := "Establish a regular credential rotation schedule (every 90 days)",
        impact := "Reduces risk from compromised credentials", effort := "Medium" }
  else report

/-- `severityCounts[severity]++`; a key the map lacks reads as 0. -/
def increment (severityCounts : String → Nat) (severity : String) : String → Nat :=
  Function.update severityCounts severity (severityCounts severity + 1)

def calculateTotals (report : SecurityReport) : SecurityReport :=
  let severityCounts : String → Nat := fun _ => 0
  let severityCounts := report.tlsFindings.foldl (fun c finding => increment c finding.severity) severityCounts
  let severityCounts := report.rbacFindings.foldl (fun c finding => increment c finding.severity) severityCounts
  let severityCounts := report.secretFindings.foldl (fun c finding => increment c finding.severity) severityCounts
  let severityCounts := report.generalFindings.foldl (fun c finding => increment c finding.severity) severityCounts
  let criticalIssues := severityCounts SeverityCritical
  let highIssues := severityCounts SeverityHigh
  let mediumIssues := severityCounts SeverityMedium
  let lowIssues := severityCounts SeverityLow
  { report with criticalIssues, highIssues, mediumIssues, lowIssues,
                totalIssues := criticalIssues + highIssues + mediumIssues + lowIssues }

/-- The event `createSecurityEvent` builds at `now`, the time it reads from
the clock; its name has the second of `now`. -/
def securityEvent (m : SecurityMonitor) (now : Duration) (reason severity resource message : String) : CoreEvent :=
  { ns := m.ns, name := "security-" ++ stringsToLower reason ++ "-" ++ toString (now / second),
    involvedKind := "SecurityMonitor", involvedName := "beskar7-security-monitor", involvedNs := m.ns, reason,
    message := "[" ++ severity ++ "] " ++ resource ++ ": " ++ message, type := "Warning",
    sourceComponent := "beskar7-security-monitor", firstTimestamp := now, lastTimestamp := now, count := 1 }

/-- A refused create is logged, and the events stay as they were. -/
def createSecurityEvent (m : SecurityMonitor) (now : Duration) (events : Store CoreEvent)
    (reason severity resource message : String) : Store CoreEvent :=
  match createEvent events (m.securityEvent now reason severity resource message) with
  | .ok events => events
  | .error _ => events

/-- The loop of `reportFindings` over one list of findings, each by its
severity, resource and description. Besides the events it carries `reads`,
the number of creates of the scan so far, so that each create reads the
clock after the ones before it. -/
def reportEach (m : SecurityMonitor) (clock : Nat → Duration) (reason : String)
    (acc : Store CoreEvent × Nat) (findings : List (String × String × String)) : Store CoreEvent × Nat :=
  findings.foldl (fun (events, reads) (severity, resource, description) =>
    if severity == SeverityCritical || severity == SeverityHigh then
      (m.createSecurityEvent (clock reads) events reason severity resource description, reads + 1)
    else (events, reads)) acc

/-- The general findings get no events. -/
def reportFindings (m : SecurityMonitor) (clock : Nat → Duration) (events : Store CoreEvent)
    (report : SecurityReport) : Store CoreEvent :=
  let acc := m.reportEach clock "TLSSecurityIssue" (events, 0)
    (report.tlsFindings.map fun finding => (finding.severity, finding.resource, finding.description))
  let acc := m.reportEach clock "RBACSecurityIssue" acc
    (report.rbacFindings.map fun finding => (finding.severity, finding.resource, finding.description))
  (m.reportEach clock "SecretSecurityIssue" acc
    (report.secretFindings.map fun finding => (finding.severity, finding.resource, finding.description))).1

-- ---------------------------------------------------------------------------
-- Scans over time
-- ---------------------------------------------------------------------------

/-- The report of a scan at `now`, and the events after it, its creates
reading `clock`. -/
def runSecurityScan (m : SecurityMonitor) (env : ScanEnv) (now : Duration) (clock : Nat → Duration)
    (events : Store CoreEvent) : SecurityReport × Store CoreEvent :=
  let report : SecurityReport := { timestamp := now }
  -- a scan that fails is logged, and the report keeps what it has
  let report :=
    match m.scanPhysicalHostsTLS env now report with
    | .ok report => report
    | .error _ => report
  let report :=
    match scanRBACConfigurations env report with
    | .ok report => report
    | .error _ => report
  let report :=
    match scanSecrets env now report with
    | .ok report => report
    | .error _ => report
  let report := generateRecommendations report
  let report := calculateTotals report
  (report, m.reportFindings clock events report)

end SecurityMonitor

end Beskar7
