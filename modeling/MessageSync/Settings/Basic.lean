import MessageSync.Schedule.Policy
import MessageSync.Store.Reconcile
import MessageSync.Wire.Layout

/-!
# Settings

What can be set about the connection, the timing of sync runs and the place of the store. Every
setting has a standard value, so that none has to be given.
-/

namespace MessageSync

/-- Settings of the connection. -/
structure ConnectionSettings where
  url : String
  initialDelayMs : UInt64
  maxDelayMs : UInt64
  connectTimeoutSecs : UInt64
  subscribeTimeoutMs : UInt64
  features : List String
  defaultConversation : Option String
deriving DecidableEq, Inhabited

namespace ConnectionSettings

/-- The standard settings. -/
def standard : ConnectionSettings :=
  { url := "ws://127.0.0.1:8080/ws"
    initialDelayMs := 1000
    maxDelayMs := 30000
    connectTimeoutSecs := 10
    subscribeTimeoutMs := 10000
    features := ["sync", "subscriptions"]
    defaultConversation := none }

/-- The fields of the section. -/
def layout : Layout ConnectionSettings ConnectionSettings :=
  (Layout.make ConnectionSettings.mk)
    |>.defaulted "url" .text url standard.url
    |>.defaulted "initial_delay_ms" .uint64 initialDelayMs standard.initialDelayMs
    |>.defaulted "max_delay_ms" .uint64 maxDelayMs standard.maxDelayMs
    |>.defaulted "connect_timeout_secs" .uint64 connectTimeoutSecs standard.connectTimeoutSecs
    |>.defaulted "subscribe_timeout_ms" .uint64 subscribeTimeoutMs standard.subscribeTimeoutMs
    |>.defaulted "features" (.list .text) features standard.features
    |>.optional "default_conversation" .text defaultConversation

/-- The reconnect delays. -/
def backoff (settings : ConnectionSettings) : Backoff :=
  ⟨settings.initialDelayMs.toNat, settings.maxDelayMs.toNat⟩

/-- How long an attempt to connect may take. -/
def connectTimeout (settings : ConnectionSettings) : Millis :=
  settings.connectTimeoutSecs.toNat * 1000

/-- How long a subscribe may wait to be acknowledged. -/
def subscribeTimeout (settings : ConnectionSettings) : Millis :=
  settings.subscribeTimeoutMs.toNat

end ConnectionSettings

/-- Settings of sync runs. -/
structure SyncSettings where
  baseIntervalMs : UInt64
  pushIntervalMs : UInt64
  idleThresholdMs : UInt64
  maxIntervalMs : UInt64
  errorBackoffBaseMs : UInt64
  errorBackoffMaxMs : UInt64
  responseTimeoutMs : UInt64
  fingerprintWindowSecs : Int64
deriving DecidableEq, Inhabited

namespace SyncSettings

/-- The standard settings. -/
def standard : SyncSettings :=
  { baseIntervalMs := 5000
    pushIntervalMs := 30000
    idleThresholdMs := 30000
    maxIntervalMs := 60000
    errorBackoffBaseMs := 2000
    errorBackoffMaxMs := 60000
    responseTimeoutMs := 15000
    fingerprintWindowSecs := 60 }

/-- The fields of the section. -/
def layout : Layout SyncSettings SyncSettings :=
  (Layout.make SyncSettings.mk)
    |>.defaulted "base_interval_ms" .uint64 baseIntervalMs standard.baseIntervalMs
    |>.defaulted "push_interval_ms" .uint64 pushIntervalMs standard.pushIntervalMs
    |>.defaulted "idle_threshold_ms" .uint64 idleThresholdMs standard.idleThresholdMs
    |>.defaulted "max_interval_ms" .uint64 maxIntervalMs standard.maxIntervalMs
    |>.defaulted "error_backoff_base_ms" .uint64 errorBackoffBaseMs standard.errorBackoffBaseMs
    |>.defaulted "error_backoff_max_ms" .uint64 errorBackoffMaxMs standard.errorBackoffMaxMs
    |>.defaulted "response_timeout_ms" .uint64 responseTimeoutMs standard.responseTimeoutMs
    |>.defaulted "fingerprint_window_secs" .int64 fingerprintWindowSecs
      standard.fingerprintWindowSecs

/-- The timing of sync runs. -/
def policy (settings : SyncSettings) : SyncPolicy :=
  { baseInterval := settings.baseIntervalMs.toNat
    pushInterval := settings.pushIntervalMs.toNat
    idleThreshold := settings.idleThresholdMs.toNat
    maxInterval := settings.maxIntervalMs.toNat
    errorBackoffBase := settings.errorBackoffBaseMs.toNat
    errorBackoffMax := settings.errorBackoffMaxMs.toNat
    responseTimeout := settings.responseTimeoutMs.toNat }

/-- The window within which a pushed message may be an echo, if it can be held. -/
def window? (settings : SyncSettings) : Option MatchWindow :=
  MatchWindow.ofSeconds? settings.fingerprintWindowSecs.toInt

end SyncSettings

/-- Settings of the store. -/
structure StoreSettings where
  path : Option String
deriving DecidableEq, Inhabited

/-- The fields of the section. -/
def StoreSettings.layout : Layout StoreSettings StoreSettings :=
  (Layout.make StoreSettings.mk)
    |>.optional "path" .text path

/-- All settings. -/
structure Settings where
  connection : ConnectionSettings
  sync : SyncSettings
  store : StoreSettings
deriving DecidableEq, Inhabited

/-- Why settings cannot be used. -/
inductive SettingsError where
  | unreadableFile
  | unparsable
  | invalidUrl (url : String)
  | zero (setting : String)
  | delaysReversed
  | negativeWindow
deriving DecidableEq, Inhabited

/-- The text of the error. -/
def SettingsError.message : SettingsError → String
  | .unreadableFile => "failed to read"
  | .unparsable => "failed to parse config"
  | .invalidUrl url => "invalid server URL '" ++ url ++ "': must start with ws:// or wss://"
  | .zero setting => setting ++ " must be greater than zero"
  | .delaysReversed => "connection.max_delay_ms must not be below initial_delay_ms"
  | .negativeWindow => "sync.fingerprint_window_secs must not be negative"

namespace Settings

/-- The standard settings. -/
def standard : Settings := ⟨.standard, .standard, ⟨none⟩⟩

/-- The sections. -/
def layout : Layout Settings Settings :=
  (Layout.make Settings.mk)
    |>.defaulted "connection" ConnectionSettings.layout.codec connection .standard
    |>.defaulted "sync" SyncSettings.layout.codec sync .standard
    |>.defaulted "store" StoreSettings.layout.codec store ⟨none⟩

/-- The settings that may not be zero, with their names. -/
def positives (settings : Settings) : List (String × UInt64) := [
  ("connection.initial_delay_ms", settings.connection.initialDelayMs),
  ("connection.max_delay_ms", settings.connection.maxDelayMs),
  ("connection.connect_timeout_secs", settings.connection.connectTimeoutSecs),
  ("connection.subscribe_timeout_ms", settings.connection.subscribeTimeoutMs),
  ("sync.base_interval_ms", settings.sync.baseIntervalMs),
  ("sync.push_interval_ms", settings.sync.pushIntervalMs),
  ("sync.idle_threshold_ms", settings.sync.idleThresholdMs),
  ("sync.max_interval_ms", settings.sync.maxIntervalMs),
  ("sync.error_backoff_base_ms", settings.sync.errorBackoffBaseMs),
  ("sync.error_backoff_max_ms", settings.sync.errorBackoffMaxMs),
  ("sync.response_timeout_ms", settings.sync.responseTimeoutMs)]

/-- Whether the text is the address of a web socket. -/
def isSocketUrl (url : String) : Bool :=
  "ws://".toList.isPrefixOf url.toList || "wss://".toList.isPrefixOf url.toList

/-- Refuses settings that cannot be used. The first fault decides the error. -/
def validate (settings : Settings) : Except SettingsError Unit := do
  if !isSocketUrl settings.connection.url then throw (.invalidUrl settings.connection.url)
  if let some (name, _) := settings.positives.find? fun entry => entry.2 == 0 then
    throw (.zero name)
  if settings.connection.maxDelayMs < settings.connection.initialDelayMs then
    throw .delaysReversed
  if settings.sync.fingerprintWindowSecs < 0 then throw .negativeWindow

end Settings

end MessageSync
