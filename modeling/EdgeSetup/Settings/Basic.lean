import EdgeSetup.Certificate.Tool
import EdgeSetup.DomainChange.Run
import EdgeSetup.Retry.Policy

/-!
# Settings

What an operator can configure, section by section, with the settings of a service that configures
nothing.
-/

namespace EdgeSetup

open Json

/-- How the service is reached. -/
structure ServerSettings where
  listenAddress : String
  /-- Another origin that may use the service from a browser. -/
  corsOrigin : Option String
  deriving DecidableEq, Repr

/-- How the cluster API is reached. -/
structure ClusterSettings where
  apiUrl : String
  /-- The file that holds the token of the service. -/
  tokenFile : String
  acceptInvalidCerts : Bool
  requestTimeoutSeconds : UInt64
  pingIntervalSeconds : UInt64
  /-- The public URL of the setup UI. -/
  frontendUrl : String
  deriving DecidableEq, Repr

/-- How certificates are generated and where they are stored. -/
structure CertificateSettings where
  toolPath : String
  tool : CertificateTool
  secretNamespace : String
  deriving DecidableEq, Repr

/-- Whether and where metrics are shown. -/
structure MetricsSettings where
  enabled : Bool
  listenAddress : String
  deriving DecidableEq, Repr

/-- What is logged, and how. -/
structure LoggingSettings where
  level : String
  format : String
  deriving DecidableEq, Repr

/-- All settings. -/
structure Settings where
  server : ServerSettings
  cluster : ClusterSettings
  retry : RetryPolicy
  certificates : CertificateSettings
  setupUi : SetupUi
  metrics : MetricsSettings
  logging : LoggingSettings
  deriving DecidableEq, Repr

namespace Settings

/-- The settings of a service that configures nothing. -/
def standard : Settings where
  server := ⟨"0.0.0.0:3001", none⟩
  cluster :=
    { apiUrl := "https://kubernetes.default.svc:443"
      tokenFile := "/var/run/secrets/kubernetes.io/serviceaccount/token"
      acceptInvalidCerts := true
      requestTimeoutSeconds := 30
      pingIntervalSeconds := 30
      frontendUrl := "https://localhost:3000" }
  retry := .standard
  certificates := ⟨"/usr/bin/openssl", ⟨3650, 2048⟩, "openshift-config"⟩
  setupUi := ⟨"edge-cluster-setup", "edge-cluster-setup", "edge-cluster-setup", true⟩
  metrics := ⟨false, "0.0.0.0:9090"⟩
  logging := ⟨"setup_node=info", "text"⟩

end Settings

/-! ## Names of the fields -/

namespace Settings

/-- The names of the sections. -/
def sectionNames : List String :=
  ["server", "cluster", "retry", "certificates", "domain", "metrics", "logging"]

end Settings

/-- The names of the fields of the server section. -/
def ServerSettings.fieldNames : List String := ["listen_addr", "cors_origin"]

/-- The names of the fields of the cluster section. -/
def ClusterSettings.fieldNames : List String :=
  ["api_url", "service_account_token_file", "accept_invalid_certs", "request_timeout_seconds",
    "ping_interval_seconds", "frontend_url"]

/-- The names of the fields of the certificate section. -/
def CertificateSettings.fieldNames : List String :=
  ["openssl_path", "validity_days", "key_bits", "secret_namespace"]

/-- The names of the fields of the setup UI section. -/
def SetupUi.fieldNames : List String :=
  ["setup_ui_namespace", "setup_ui_deployment", "setup_ui_oauth_client", "refresh_setup_ui"]

/-- The names of the fields of the metrics section. -/
def MetricsSettings.fieldNames : List String := ["enabled", "listen_addr"]

/-- The names of the fields of the logging section. -/
def LoggingSettings.fieldNames : List String := ["level", "format"]

/-! ## Reading and writing -/

/-- The fields of a record that are all known by one name. -/
def fields? (names : List String) (source : Source) : Option Record :=
  Record.ofSource? (names.map fun name => [name]) source

instance : Decode ServerSettings where
  decode? source := do
    let record ← fields? ServerSettings.fieldNames source
    some ⟨← record.required? 0, ← record.optional? 1⟩

instance : Encode ServerSettings where
  encode server := .object <| ServerSettings.fieldNames.zip
    [encode server.listenAddress, encode server.corsOrigin]

instance : Decode ClusterSettings where
  decode? source := do
    let record ← fields? ClusterSettings.fieldNames source
    some ⟨← record.required? 0, ← record.required? 1, ← record.required? 2, ← record.required? 3,
      ← record.required? 4, ← record.required? 5⟩

instance : Encode ClusterSettings where
  encode cluster := .object <| ClusterSettings.fieldNames.zip
    [encode cluster.apiUrl, encode cluster.tokenFile, encode cluster.acceptInvalidCerts,
      encode cluster.requestTimeoutSeconds, encode cluster.pingIntervalSeconds,
      encode cluster.frontendUrl]

instance : Decode CertificateSettings where
  decode? source := do
    let record ← fields? CertificateSettings.fieldNames source
    some ⟨← record.required? 0, ⟨← record.required? 1, ← record.required? 2⟩,
      ← record.required? 3⟩

instance : Encode CertificateSettings where
  encode certificates := .object <| CertificateSettings.fieldNames.zip
    [encode certificates.toolPath, encode certificates.tool.validityDays,
      encode certificates.tool.keyBits, encode certificates.secretNamespace]

instance : Decode SetupUi where
  decode? source := do
    let record ← fields? SetupUi.fieldNames source
    some ⟨← record.required? 0, ← record.required? 1, ← record.required? 2, ← record.required? 3⟩

instance : Encode SetupUi where
  encode setupUi := .object <| SetupUi.fieldNames.zip
    [encode setupUi.inNamespace, encode setupUi.deployment, encode setupUi.oauthClient,
      encode setupUi.refresh]

instance : Decode MetricsSettings where
  decode? source := do
    let record ← fields? MetricsSettings.fieldNames source
    some ⟨← record.required? 0, ← record.required? 1⟩

instance : Encode MetricsSettings where
  encode metrics := .object <| MetricsSettings.fieldNames.zip
    [encode metrics.enabled, encode metrics.listenAddress]

instance : Decode LoggingSettings where
  decode? source := do
    let record ← fields? LoggingSettings.fieldNames source
    some ⟨← record.required? 0, ← record.required? 1⟩

instance : Encode LoggingSettings where
  encode logging := .object <| LoggingSettings.fieldNames.zip
    [encode logging.level, encode logging.format]

instance : Decode Settings where
  decode? source := do
    let record ← fields? Settings.sectionNames source
    some ⟨← record.required? 0, ← record.required? 1, ← record.required? 2, ← record.required? 3,
      ← record.required? 4, ← record.required? 5, ← record.required? 6⟩

instance : Encode Settings where
  encode settings := .object <| Settings.sectionNames.zip
    [encode settings.server, encode settings.cluster, encode settings.retry,
      encode settings.certificates, encode settings.setupUi, encode settings.metrics,
      encode settings.logging]

end EdgeSetup
