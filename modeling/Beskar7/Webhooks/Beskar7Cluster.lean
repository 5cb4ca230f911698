import Beskar7.Controllers.Beskar7Cluster
import Beskar7.Lib.GoNet

/-!
# The Beskar7Cluster webhook

`Beskar7ClusterWebhook` of `api/v1beta1/webhooks/beskar7cluster_webhook.go`:
the validation of a Beskar7Cluster on create and update, and its defaulting.
A control plane endpoint that is set, by a host or a port, needs both; the
host is an IP address as `net.ParseIP` reads it, or a hostname whose labels
are checked rune by rune, and the port lies in 1..65535.

The checks collect `field.Error`s, each with the path of the field it is
about, and `apierrors.NewInvalid` wraps them in one error naming the kind
and the object. The webhook returns no warnings, so a result is the error
or nothing.
-/

namespace Beskar7

open GoNet GoString

/-- `field.ErrorType`, of the two kinds the webhook reports. -/
inductive FieldErrorType
  | required
  | invalid
  deriving DecidableEq, Repr

/-- The value a `field.Error` quotes. -/
inductive BadValue
  | string (s : String)
  | int32 (v : Int32)
  deriving DecidableEq, Repr

/-- `field.Error`. The path is the list of the names given to
`field.NewPath` and `Child`; it prints joined by dots. -/
structure FieldError where
  type : FieldErrorType
  field : List String
  badValue : BadValue
  detail : String
  deriving DecidableEq, Repr

/-- `field.Required`, which quotes the empty string. -/
def fieldRequired (path : List String) (detail : String) : FieldError :=
  { type := .required, field := path, badValue := .string "", detail := detail }

/-- `field.Invalid`. -/
def fieldInvalid (path : List String) (value : BadValue) (detail : String) : FieldError :=
  { type := .invalid, field := path, badValue := value, detail := detail }

/-- `schema.GroupKind`. -/
structure GroupKind where
  group : String
  kind : String
  deriving DecidableEq, Repr

/-- The `StatusError` of `apierrors.NewInvalid`: its details name the kind and
the object, and its causes are the field errors. -/
structure InvalidError where
  groupKind : GroupKind
  name : String
  errs : List FieldError
  deriving DecidableEq, Repr

/-- `apierrors.NewInvalid`. -/
def NewInvalid (qualifiedKind : GroupKind) (name : String) (errs : List FieldError) : InvalidError :=
  { groupKind := qualifiedKind, name := name, errs := errs }

/-- The group and kind of a Beskar7Cluster, which the admission request
sets on the object. -/
def Beskar7ClusterGroupKind : GroupKind :=
  { group := "infrastructure.cluster.x-k8s.io", kind := "Beskar7Cluster" }

namespace Beskar7ClusterWebhook

/-- The condition on which the loop of `isValidHostnameLabel` rejects the
rune `r` at byte offset `i` of a label of `len` bytes: not an ASCII letter
or digit, and no hyphen inside the label. -/
def labelRuneRejected (len i : Nat) (r : Char) : Bool :=
  (r < 'a' || r > 'z') && (r < 'A' || r > 'Z') && (r < '0' || r > '9') &&
    (r != '-' || i == 0 || i == len - 1)

def isValidHostnameLabel (label : String) : Bool :=
  if label = "" || (bytes label).length > 63 then false
  else (range label).all fun (i, r) => !labelRuneRejected (bytes label).length i r

def isValidHostname (hostname : String) : Bool :=
  if hostname = "" || (bytes hostname).length > 253 then false
  -- consecutive dots
  else if stringsContains hostname ".." then false
  else (stringsSplit hostname '.').all isValidHostnameLabel

def validateHost (host : String) (fieldPath : List String) : List FieldError :=
  if (parseIP (bytes host)).isSome then []
  else if !isValidHostname host then
    [fieldInvalid fieldPath (.string host) "must be a valid IP address or hostname"]
  else []

def validatePort (port : Int32) (fieldPath : List String) : List FieldError :=
  if port < 1 || port > 65535 then [fieldInvalid fieldPath (.int32 port) "port must be between 1 and 65535"]
  else []

def validateControlPlaneEndpoint (endpoint : APIEndpoint) : List FieldError :=
  let fieldPath := ["spec", "controlPlaneEndpoint"]
  let hostErrs :=
    if endpoint.host = "" then
      [fieldRequired (fieldPath ++ ["host"]) "host is required when controlPlaneEndpoint is specified"]
    else validateHost endpoint.host (fieldPath ++ ["host"])
  -- the range is checked first, then that the port is set
  let portErrs :=
    if endpoint.port ≠ 0 then validatePort endpoint.port (fieldPath ++ ["port"])
    else [fieldRequired (fieldPath ++ ["port"]) "port is required when controlPlaneEndpoint is specified"]
  hostErrs ++ portErrs

def validateBeskar7Cluster (cluster : Beskar7Cluster) : Except InvalidError Unit :=
  let endpoint := cluster.spec.controlPlaneEndpoint
  let allErrs := if endpoint.host ≠ "" || endpoint.port ≠ 0 then validateControlPlaneEndpoint endpoint else []
  if allErrs ≠ [] then .error (NewInvalid Beskar7ClusterGroupKind cluster.metadata.name allErrs)
  else .ok ()

def ValidateCreate (cluster : Beskar7Cluster) : Except InvalidError Unit :=
  validateBeskar7Cluster cluster

/-- An update is validated by the new object alone. -/
def ValidateUpdate (_oldCluster newCluster : Beskar7Cluster) : Except InvalidError Unit :=
  validateBeskar7Cluster newCluster

def ValidateDelete (_cluster : Beskar7Cluster) : Except InvalidError Unit := .ok ()

/-- The port of an endpoint with a host and no port defaults to 6443. -/
def defaultBeskar7Cluster (cluster : Beskar7Cluster) : Beskar7Cluster :=
  let endpoint := cluster.spec.controlPlaneEndpoint
  if endpoint.host ≠ "" ∧ endpoint.port = 0 then
    { cluster with spec.controlPlaneEndpoint.port := 6443 }
  else cluster

def Default (cluster : Beskar7Cluster) : Beskar7Cluster := defaultBeskar7Cluster cluster

end Beskar7ClusterWebhook

end Beskar7
