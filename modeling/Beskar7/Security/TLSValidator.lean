import Beskar7.Api.Types
import Beskar7.Lib.GoNet

/-!
# The TLS validator

`TLSValidator` of `internal/security/tls_validator.go`, which the security
monitor runs against the Redfish endpoint of each PhysicalHost. It parses
the endpoint, dials the host on its port (443 when none is written) without
verifying the peer, and checks the certificates the peer presents: their
validity period, self-signing, key usages, the chain and the hostname.
Errors make a result invalid; warnings do not.

What it reaches through the network and the standard library is given, in
`TLSEnv`: `url.Parse`, the TLS dial with the peer's certificates, and
`Certificate.VerifyHostname`. A certificate is the fields of
`x509.Certificate` the checks read. Times are nanoseconds from the Unix
epoch, on either side of it; the differences the checks compare stay far
inside the range of `time.Duration`, where `Sub` does not saturate.
-/

namespace Beskar7

open GoNet

def hour : Duration := 60 * minute

/-- `x509.KeyUsage`, bit flags; the certificate parser sets only the nine below. -/
abbrev KeyUsage := Nat

def KeyUsageDigitalSignature : KeyUsage := 1
def KeyUsageContentCommitment : KeyUsage := 2
def KeyUsageKeyEncipherment : KeyUsage := 4
def KeyUsageDataEncipherment : KeyUsage := 8
def KeyUsageKeyAgreement : KeyUsage := 16
def KeyUsageCertSign : KeyUsage := 32
def KeyUsageCRLSign : KeyUsage := 64
def KeyUsageEncipherOnly : KeyUsage := 128
def KeyUsageDecipherOnly : KeyUsage := 256

/-- `x509.ExtKeyUsage`. -/
abbrev ExtKeyUsage := Nat

def ExtKeyUsageServerAuth : ExtKeyUsage := 1

/-- `x509.Certificate`, of the fields the validator reads. `issuer` and
`subject` are `Issuer.String()` and `Subject.String()`, and each IP address
is as `ip.String()` prints it. -/
structure Certificate where
  issuer : String
  subject : String
  notBefore : Int
  notAfter : Int
  keyUsage : KeyUsage := 0
  extKeyUsage : List ExtKeyUsage := []
  isCA : Bool := false
  dnsNames : List String := []
  ipAddresses : List String := []
  deriving DecidableEq, Repr

/-- `TLSValidator`; the dial's `Timeout` is in the answers of `TLSEnv`, and
`CustomCAs` only reaches a TLS configuration that does not verify. -/
structure TLSValidator where
  allowSelfSigned : Bool
  deriving DecidableEq, Repr

/-- `ValidationResult`; `expiry` is none where the source leaves the zero time. -/
structure ValidationResult where
  valid : Bool := false
  warnings : List String := []
  errors : List String := []
  certificate : Option Certificate := none
  certChain : List Certificate := []
  expiry : Option Int := none
  isSelfSigned : Bool := false
  sans : List String := []
  deriving DecidableEq, Repr

def ValidationResult.appendWarning (result : ValidationResult) (warning : String) : ValidationResult :=
  { result with warnings := result.warnings ++ [warning] }

def ValidationResult.appendError (result : ValidationResult) (error : String) : ValidationResult :=
  { result with errors := result.errors ++ [error] }

/-- What the validator reaches outside itself. -/
structure TLSEnv where
  /-- `url.Parse`, with the error as `%v` prints it -/
  parseURL : String → Except String URL
  /-- `tls.DialWithDialer` to an address: the certificates the peer presents, leaf first -/
  dial : String → Except String (List Certificate)
  /-- `Certificate.VerifyHostname` -/
  verifyHostname : Certificate → String → Except String Unit

namespace TLSValidator

def isSelfSigned (cert : Certificate) : Bool := cert.issuer = cert.subject

def validateCertificate (v : TLSValidator) (now : Int) (result : ValidationResult) (cert : Certificate)
    (_hostname : String) : ValidationResult :=
  let result := if now < cert.notBefore then result.appendError "Certificate is not yet valid" else result
  let result := if now > cert.notAfter then result.appendError "Certificate has expired" else result
  let result :=
    if result.isSelfSigned && !v.allowSelfSigned then result.appendError "Self-signed certificates are not allowed"
    else if result.isSelfSigned then result.appendWarning "Certificate is self-signed"
    else result
  let result :=
    if cert.keyUsage &&& KeyUsageDigitalSignature = 0 then
      result.appendWarning "Certificate lacks digital signature key usage"
    else result
  let result :=
    if cert.keyUsage &&& KeyUsageKeyEncipherment = 0 ∧ cert.keyUsage &&& KeyUsageKeyAgreement = 0 then
      result.appendWarning "Certificate lacks key encipherment or key agreement usage"
    else result
  let validExtKeyUsage := cert.extKeyUsage.any (· = ExtKeyUsageServerAuth)
  if !validExtKeyUsage then result.appendWarning "Certificate lacks server authentication extended key usage"
  else result

/-- One pass of the loop over the chain, at position `i`. -/
def chainPass (result : ValidationResult) (entry : Certificate × Nat) : ValidationResult :=
  let (cert, i) := entry
  let result := if cert.isCA && i == 0 then result.appendError "Leaf certificate incorrectly marked as CA" else result
  if !cert.isCA && i > 0 then result.appendWarning s!"Intermediate certificate at position {i} not marked as CA"
  else result

def validateCertificateChain (result : ValidationResult) (chain : List Certificate) : ValidationResult :=
  let result :=
    if chain.length = 1 && !result.isSelfSigned then
      result.appendWarning "Certificate chain contains only leaf certificate (missing intermediate CAs)"
    else result
  chain.zipIdx.foldl chainPass result

def validateExpiry (now : Int) (result : ValidationResult) (cert : Certificate) : ValidationResult :=
  let result :=
    if cert.notAfter - now < ((30 * 24 * hour : Nat) : Int) ∧ cert.notAfter > now then
      result.appendWarning "Certificate expires within 30 days"
    else result
  if cert.notAfter - now < ((7 * 24 * hour : Nat) : Int) ∧ cert.notAfter > now then
    result.appendWarning "Certificate expires within 7 days"
  else result

def validateHostname (env : TLSEnv) (result : ValidationResult) (cert : Certificate) (hostname : String) :
    ValidationResult :=
  match env.verifyHostname cert hostname with
  | .ok () => result
  | .error err =>
    let result := result.appendError ("Certificate not valid for hostname " ++ hostname ++ ": " ++ err)
    -- suggestions
    let result :=
      if cert.dnsNames.length > 0 then
        result.appendWarning ("Certificate is valid for: " ++ ", ".intercalate cert.dnsNames)
      else result
    if cert.ipAddresses.length > 0 then
      result.appendWarning ("Certificate is valid for IPs: " ++ ", ".intercalate cert.ipAddresses)
    else result

/-- The checks on the certificates a peer presented, leaf first. -/
def validatePeerCertificates (v : TLSValidator) (env : TLSEnv) (now : Int) (host : String) (cert : Certificate)
    (chain : List Certificate) : ValidationResult :=
  let result : ValidationResult :=
    { certificate := some cert, certChain := chain, expiry := some cert.notAfter, sans := cert.dnsNames,
      isSelfSigned := isSelfSigned cert }
  let result := v.validateCertificate now result cert host
  let result := validateCertificateChain result chain
  let result := validateExpiry now result cert
  let result := validateHostname env result cert host
  { result with valid := result.errors.length == 0 }

/-- `ValidateTLSEndpoint`, which never returns an error of its own: every
failure is in the result. -/
def ValidateTLSEndpoint (v : TLSValidator) (env : TLSEnv) (now : Int) (endpoint : String) : ValidationResult :=
  match env.parseURL endpoint with
  | .error err => { errors := ["Invalid URL: " ++ err] }
  | .ok parsedURL =>
    if parsedURL.scheme ≠ "https" then { errors := ["Only HTTPS endpoints can be validated"] }
    else
      let host := parsedURL.Hostname
      let port := if parsedURL.Port = "" then "443" else parsedURL.Port
      match env.dial (JoinHostPort host port) with
      | .error err => { errors := ["Failed to connect: " ++ err] }
      | .ok [] => { errors := ["No certificates found"] }
      | .ok (cert :: rest) => v.validatePeerCertificates env now host cert (cert :: rest)

end TLSValidator

end Beskar7
