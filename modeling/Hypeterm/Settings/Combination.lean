import Hypeterm.Settings.Defs
import Hypeterm.Settings.Net

/-! Cross-setting validation: an invalid combination is refused as a whole. -/
namespace Hypeterm.Settings

open Keys

/-- The ordered map from setting names to values. -/
abbrev Values := String → Option Value

def Values.insert (values : Values) (name : String) (value : Value) : Values :=
  Function.update values name (some value)

def algorithmEd25519 : String := "ed25519"

namespace Scope

def all : List String :=
  ["devices:read", "devices:write", "terminals:read", "terminals:mirror", "terminals:input",
    "terminals:create", "terminals:write", "terminals:publish"]

def identityAllowed : List String :=
  ["devices:read", "devices:write", "terminals:read", "terminals:mirror", "terminals:input",
    "terminals:create"]

def publisherAllowed : List String := ["terminals:write", "terminals:publish"]

def clientAllowed : List String :=
  ["devices:read", "terminals:read", "terminals:mirror", "terminals:input", "terminals:create"]

end Scope

def require (passes : Bool) (message : String) : List String :=
  if passes then [] else [message]

namespace Combination

variable (values : Values)

/-- An integer setting; its declared default where the map holds no integer. -/
def int (name : String) : Int64 :=
  match values name with
  | some (.int i) => i
  | _ =>
      match (findDef name).map SettingDef.default with
      | some (.int i) => i
      | _ => 0

def boolean (name : String) : Bool := values name = some (.bool true)

def text (name : String) : String :=
  match values name with
  | some (.str text) => text
  | _ => ""

def list (name : String) : List String :=
  match values name with
  | some (.list items) => items
  | _ => []

def notAbove (lower upper : String) : List String :=
  require (int values lower ≤ int values upper) s!"{lower} must not exceed {upper}"

def atLeast (upper lower : String) : List String :=
  require (int values lower ≤ int values upper) s!"{upper} must be at least {lower}"

def replayCeiling : List String :=
  require (int values terminalReplayCapacityBytes ≤ replayCapacityHardMax)
    s!"{Keys.terminalReplayCapacityBytes} must not exceed the specification ceiling of {replayCapacityHardMax} bytes"

def heartbeat : List String :=
  require
    (int values websocketHeartbeatIntervalSeconds <
      int values websocketHeartbeatTimeoutSeconds)
    s!"{Keys.websocketHeartbeatTimeoutSeconds} must exceed {Keys.websocketHeartbeatIntervalSeconds}"

def listeners : List String :=
  let listen := text values serverListenAddress
  let healthListen := text values serverHealthListenAddress
  require (Net.parseSocketAddr listen.toList).isSome
    s!"{Keys.serverListenAddress} must be a socket address such as 0.0.0.0:8080" ++
  if healthListen.isEmpty then []
  else if (Net.parseSocketAddr healthListen.toList).isNone then
    [s!"{Keys.serverHealthListenAddress} must be empty or a socket address"]
  else
    require (healthListen ≠ listen)
      s!"{Keys.serverHealthListenAddress} must differ from {Keys.serverListenAddress}"

def publicOrigin : List String :=
  let origin := text values serverPublicOrigin
  require (startsWith "http://" origin || startsWith "https://" origin)
    s!"{Keys.serverPublicOrigin} must start with http:// or https://" ++
  require (origin.toList.getLast? ≠ some '/')
    s!"{Keys.serverPublicOrigin} must not end with a slash"

/-- `metadata` says for which paths the file system has an entry to read. -/
def tlsPath (metadata : String → Bool) (key : String) : List String :=
  let path := text values key
  if path.isEmpty then [s!"{key} is required when {Keys.serverTlsEnabled} is true"]
  else require (metadata path) s!"{key} points at an unreadable path: {path}"

def tls (metadata : String → Bool) : List String :=
  if boolean values serverTlsEnabled then
    tlsPath values metadata serverTlsCertificatePath ++
      tlsPath values metadata serverTlsPrivateKeyPath
  else []

def trustedProxies : List String :=
  (list values securityTrustedProxyNetworks).flatMap fun cidr =>
    require (Net.parseCidr cidr).isSome
      s!"{Keys.securityTrustedProxyNetworks} contains an invalid CIDR block: {cidr}"

def algorithms : List String :=
  let algorithms := list values authSupportedKeyAlgorithms
  require (!algorithms.isEmpty)
    s!"{Keys.authSupportedKeyAlgorithms} must list at least one algorithm" ++
  (algorithms.flatMap fun algorithm =>
    require (algorithm = algorithmEd25519)
      s!"{Keys.authSupportedKeyAlgorithms} contains an algorithm this build cannot verify: {algorithm}") ++
  require (algorithms.contains algorithmEd25519)
    s!"{Keys.authSupportedKeyAlgorithms} must include ed25519, which the specification requires"

/-- No configuration may grant a principal authority its kind and role must not
have. -/
def scopes (setting : String) (allowed : List String) (description : String) : List String :=
  (list values setting).flatMap fun scope =>
    if scope ∉ Scope.all then [s!"{setting} contains an unknown scope: {scope}"]
    else
      require (allowed.contains scope)
        s!"{setting} must not include {scope}, which {description} may never hold"

def errors (metadata : String → Bool) : List String :=
  replayCeiling values ++
  notAbove values persistenceFlushBytes limitsMaxUnackedOutputBytes ++
  notAbove values limitsMaxOutputFrameBytes limitsMaxUnackedOutputBytes ++
  atLeast values persistenceMemoryPressureDirtyBytes persistenceFlushBytes ++
  atLeast values persistenceCommitRetryMaxMs persistenceCommitRetryInitialMs ++
  notAbove values limitsDefaultPageSize limitsMaxPageSize ++
  heartbeat values ++ listeners values ++ publicOrigin values ++ tls values metadata ++
  trustedProxies values ++ algorithms values ++
  scopes values authIdentityTokenScopes Scope.identityAllowed "an identity" ++
  scopes values authDeviceTokenScopes Scope.publisherAllowed "a publisher-role device" ++
  scopes values authClientTokenScopes Scope.clientAllowed "a client-role device"

def keys : List String :=
  [terminalReplayCapacityBytes, persistenceFlushBytes, limitsMaxUnackedOutputBytes,
    limitsMaxOutputFrameBytes, persistenceMemoryPressureDirtyBytes,
    persistenceCommitRetryMaxMs, persistenceCommitRetryInitialMs,
    limitsDefaultPageSize, limitsMaxPageSize, websocketHeartbeatIntervalSeconds,
    websocketHeartbeatTimeoutSeconds, serverListenAddress,
    serverHealthListenAddress, serverPublicOrigin, serverTlsEnabled,
    serverTlsCertificatePath, serverTlsPrivateKeyPath,
    securityTrustedProxyNetworks, authSupportedKeyAlgorithms,
    authIdentityTokenScopes, authDeviceTokenScopes, authClientTokenScopes]

theorem keys_not_secret :
    ∀ name ∈ keys, ∀ definition ∈ defs, definition.name = name → definition.secret = false := by
  decide +kernel

variable {values} in
theorem errors_congr {values' : Values} (agree : ∀ name ∈ keys, values name = values' name)
    (metadata : String → Bool) : errors values metadata = errors values' metadata := by
  have hint : ∀ name, name ∈ keys → int values name = int values' name := by
    intro name hname
    simp only [int, agree name hname]
  have hboolean : ∀ name, name ∈ keys → boolean values name = boolean values' name := by
    intro name hname
    simp only [boolean, agree name hname]
  have htext : ∀ name, name ∈ keys → text values name = text values' name := by
    intro name hname
    simp only [text, agree name hname]
  have hlist : ∀ name, name ∈ keys → list values name = list values' name := by
    intro name hname
    simp only [list, agree name hname]
  simp (disch := decide) only [errors, replayCeiling, notAbove, atLeast, heartbeat, listeners,
    publicOrigin, tls, tlsPath, trustedProxies, algorithms, scopes, hint, hboolean, htext, hlist]

end Combination

def validateCombination (metadata : String → Bool) (values : Values) :
    Except (List String) Unit :=
  let errors := Combination.errors values metadata
  if errors.isEmpty then .ok () else .error errors

theorem validateCombination_congr {values values' : Values}
    (agree : ∀ name ∈ Combination.keys, values name = values' name) (metadata : String → Bool) :
    validateCombination metadata values = validateCombination metadata values' := by
  simp only [validateCombination, Combination.errors_congr agree metadata]

end Hypeterm.Settings
