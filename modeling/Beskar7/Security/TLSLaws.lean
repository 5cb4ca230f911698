import Beskar7.Security.TLSValidator
import Beskar7.Lib.Trace

/-!
# When the TLS validator finds an endpoint valid

Warnings never make a result invalid: its errors do, and each check adds
at most one. An endpoint is valid exactly when its URL parses with the
`https` scheme, the dial to its host and port gives a chain of certificates,
and the leaf is in its validity period, is self-signed only where the
validator allows it, is not marked as a CA and verifies for the host
(`ValidateTLSEndpoint_valid_iff`).
-/

namespace Beskar7

open GoNet

namespace ValidationResult

variable {result : ValidationResult}

@[simp] theorem errors_appendWarning (warning : String) : (result.appendWarning warning).errors = result.errors :=
  rfl

@[simp] theorem errors_appendError (error : String) : (result.appendError error).errors = result.errors ++ [error] :=
  rfl

@[simp] theorem isSelfSigned_appendWarning (warning : String) :
    (result.appendWarning warning).isSelfSigned = result.isSelfSigned :=
  rfl

@[simp] theorem isSelfSigned_appendError (error : String) :
    (result.appendError error).isSelfSigned = result.isSelfSigned :=
  rfl

end ValidationResult

namespace TLSValidator

variable (v : TLSValidator) (env : TLSEnv) (now : Int) (result : ValidationResult) (cert : Certificate)

-- ---------------------------------------------------------------------------
-- The errors of each check
-- ---------------------------------------------------------------------------

theorem validateCertificate_errors (hostname : String) :
    (v.validateCertificate now result cert hostname).errors =
      result.errors ++ (if now < cert.notBefore then ["Certificate is not yet valid"] else []) ++
        (if now > cert.notAfter then ["Certificate has expired"] else []) ++
        (if result.isSelfSigned = true ∧ v.allowSelfSigned = false then ["Self-signed certificates are not allowed"]
          else []) := by
  unfold validateCertificate
  -- the key usages only warn; what errors there are comes from the first three checks
  by_cases hbefore : now < cert.notBefore <;> by_cases hafter : now > cert.notAfter <;>
    cases hself : result.isSelfSigned <;> cases hallow : v.allowSelfSigned <;>
    simp [hbefore, hafter, hself, apply_ite ValidationResult.errors]

theorem mem_errors_chainPass (entry : Certificate × Nat) (error : String) :
    error ∈ (chainPass result entry).errors ↔
      error ∈ result.errors ∨ (error = "Leaf certificate incorrectly marked as CA" ∧ entry.1.isCA = true ∧ entry.2 = 0) := by
  obtain ⟨c, i⟩ := entry
  unfold chainPass
  by_cases hca : c.isCA = true <;> by_cases hi : i = 0 <;> simp [hca, hi, apply_ite ValidationResult.errors]

/-- Only the leaf can be an error of the chain: a leaf marked as a CA. -/
theorem validateCertificateChain_errors_eq_nil (chain : List Certificate) :
    (validateCertificateChain result chain).errors = [] ↔
      result.errors = [] ∧ ∀ leaf ∈ chain.head?, leaf.isCA = false := by
  have hmem := Trace.mem_foldl_collect chainPass ValidationResult.errors
    (fun entry error => error = "Leaf certificate incorrectly marked as CA" ∧ entry.1.isCA = true ∧ entry.2 = 0)
    mem_errors_chainPass chain.zipIdx
  have hstart : (if chain.length = 1 && !result.isSelfSigned then
      result.appendWarning "Certificate chain contains only leaf certificate (missing intermediate CAs)"
      else result).errors = result.errors := by
    split <;> rfl
  unfold validateCertificateChain
  simp only [List.eq_nil_iff_forall_not_mem, hmem, hstart, not_or, forall_and]
  -- the entry at index 0 is the head of the chain
  have hleaf : (∀ error, ¬∃ entry ∈ chain.zipIdx,
      error = "Leaf certificate incorrectly marked as CA" ∧ entry.1.isCA = true ∧ entry.2 = 0) ↔
      ∀ leaf ∈ chain.head?, leaf.isCA = false := by
    simp only [not_exists, not_and, Prod.forall, List.mem_zipIdx_iff_getElem?, Option.mem_def,
      List.head?_eq_getElem?]
    constructor
    · intro h leaf hleaf
      cases hca : leaf.isCA
      · rfl
      · exact absurd rfl (h _ leaf 0 hleaf rfl hca)
    · rintro h error leaf i hi - hca rfl
      rw [h leaf hi] at hca
      exact Bool.false_ne_true hca
  rw [hleaf]

/-- The expiry checks only warn. -/
theorem validateExpiry_errors : (validateExpiry now result cert).errors = result.errors := by
  unfold validateExpiry
  split_ifs <;> rfl

theorem validateHostname_errors_eq_nil (hostname : String) :
    (validateHostname env result cert hostname).errors = [] ↔
      result.errors = [] ∧ env.verifyHostname cert hostname = .ok () := by
  unfold validateHostname
  cases env.verifyHostname cert hostname with
  | ok u => simp
  | error err => simp [apply_ite ValidationResult.errors]

-- ---------------------------------------------------------------------------
-- Whole endpoints
-- ---------------------------------------------------------------------------

/-- The conditions on a leaf certificate for a valid endpoint. -/
def LeafValid (host : String) (leaf : Certificate) : Prop :=
  leaf.notBefore ≤ now ∧ now ≤ leaf.notAfter ∧ (isSelfSigned leaf = true → v.allowSelfSigned = true) ∧
    leaf.isCA = false ∧ env.verifyHostname leaf host = .ok ()

theorem validatePeerCertificates_valid (host : String) (rest : List Certificate) :
    (v.validatePeerCertificates env now host cert (cert :: rest)).valid = true ↔ LeafValid v env now host cert := by
  unfold validatePeerCertificates LeafValid
  simp only [beq_iff_eq, List.length_eq_zero_iff, validateHostname_errors_eq_nil, validateExpiry_errors,
    validateCertificateChain_errors_eq_nil, validateCertificate_errors, List.append_eq_nil_iff, List.head?_cons,
    Option.mem_def, Option.some.injEq, forall_eq']
  -- each check's error is one condition on the leaf
  simp only [ite_eq_right_iff, List.cons_ne_nil, imp_false, not_lt, gt_iff_lt, not_and, Bool.not_eq_false,
    true_and, and_assoc]

theorem validatePeerCertificates_valid_iff_errors (host : String) (chain : List Certificate) :
    (v.validatePeerCertificates env now host cert chain).valid = true ↔
      (v.validatePeerCertificates env now host cert chain).errors = [] := by
  unfold validatePeerCertificates
  simp

/-- What an endpoint needs to be valid. -/
theorem ValidateTLSEndpoint_valid_iff (endpoint : String) :
    (v.ValidateTLSEndpoint env now endpoint).valid = true ↔
      ∃ u, env.parseURL endpoint = .ok u ∧ u.scheme = "https" ∧
        ∃ leaf rest, env.dial (JoinHostPort u.Hostname (if u.Port = "" then "443" else u.Port)) = .ok (leaf :: rest) ∧
          LeafValid v env now u.Hostname leaf := by
  unfold ValidateTLSEndpoint
  cases hparse : env.parseURL endpoint with
  | error err => simp
  | ok u =>
    by_cases hscheme : u.scheme = "https"
    · cases hdial : env.dial (JoinHostPort u.Hostname (if u.Port = "" then "443" else u.Port)) with
      | error err => simp [hscheme, hdial]
      | ok chain =>
        cases chain with
        | nil => simp [hscheme, hdial]
        | cons leaf rest => simp [hscheme, hdial, validatePeerCertificates_valid]
    · simp [hscheme]

/-- A result is valid exactly when it has no error, on every path. -/
theorem ValidateTLSEndpoint_valid_iff_errors (endpoint : String) :
    (v.ValidateTLSEndpoint env now endpoint).valid = true ↔ (v.ValidateTLSEndpoint env now endpoint).errors = [] := by
  unfold ValidateTLSEndpoint
  cases hparse : env.parseURL endpoint with
  | error err => simp
  | ok u =>
    by_cases hscheme : u.scheme = "https"
    · cases hdial : env.dial (JoinHostPort u.Hostname (if u.Port = "" then "443" else u.Port)) with
      | error err => simp [hscheme, hdial]
      | ok chain =>
        cases chain with
        | nil => simp [hscheme, hdial]
        | cons leaf rest =>
          simp only [hscheme, hdial, ne_eq, not_true_eq_false, if_false]
          exact validatePeerCertificates_valid_iff_errors v env now leaf _ _
    · simp [hscheme]

end TLSValidator

end Beskar7
