import CallDesk.FileName
import CallDesk.Json.Record

/-! # Settings

What the programs can be told, in sections, and what holds when they are told nothing. Settings
are read from values of several kinds (messages, layered files and variables); what differs
between the kinds is how a record is opened and how a single value is taken, which is a `Source`.
-/

namespace CallDesk

/-- Where the web server listens. -/
structure ServerSettings where
  host : String := "0.0.0.0"
  port : UInt16 := 3000
deriving DecidableEq

/-- How the backend is reached. -/
structure BackendSettings where
  /-- The address that every path is appended to. -/
  baseUrl : String := "http://localhost:8000/api/v1"
  /-- Seconds to wait for an answer. -/
  requestTimeout : UInt64 := 30
deriving DecidableEq

/-- How users sign in. -/
structure SignInSettings where
  /-- The page of the identity provider. -/
  loginUrl : String := "/"
  /-- The backend path that creates a user's profile. -/
  profilePath : String := "/auth/create-profile"
  /-- How long a confirmation is shown, in milliseconds. -/
  confirmationDelay : UInt64 := 3000
  /-- Whether cookies are for encrypted connections only. -/
  secureCookies : Bool := false
deriving DecidableEq

/-- How the dashboard behaves. -/
structure DashboardSettings where
  callsPageSize : UInt32 := 20
  recentCallsLimit : UInt32 := 5
  integrationsUrl : String := "/dashboard"
deriving DecidableEq

/-- The link to an assistant on every page. -/
structure AssistantSettings where
  enabled : Bool := false
  url : Option String := none
deriving DecidableEq

/-- How the database is reached. -/
structure DatabaseSettings where
  url : String := "postgresql://localhost/voxdial"
  maxConnections : UInt32 := 5
  minConnections : UInt32 := 1
  connectTimeout : UInt64 := 30
  idleTimeout : UInt64 := 600
deriving DecidableEq

/-- How the log is written. -/
structure LogSettings where
  level : String := "info"
  format : String := "json"
deriving DecidableEq

/-- All settings. -/
structure Settings where
  server : ServerSettings := {}
  backend : BackendSettings := {}
  auth : SignInSettings := {}
  dashboard : DashboardSettings := {}
  assistant : AssistantSettings := {}
  database : DatabaseSettings := {}
  logging : LogSettings := {}
deriving DecidableEq

/-- How settings are taken from a kind of value. -/
structure Source (α : Type) where
  /-- The fields of a record with the given names. -/
  fields? : List String → α → Option (Fields α)
  text? : α → Option String
  bool? : α → Option Bool
  /-- A natural number of at most the limit. -/
  nat? : Nat → α → Option Nat
  /-- Whether a value stands for the absence of one. -/
  isNull : α → Bool

namespace Source

variable {α : Type} (source : Source α)

def uint16? (v : α) : Option UInt16 := (source.nat? (UInt16.size - 1) v).map UInt16.ofNat

def uint32? (v : α) : Option UInt32 := (source.nat? (UInt32.size - 1) v).map UInt32.ofNat

def uint64? (v : α) : Option UInt64 := (source.nat? (UInt64.size - 1) v).map UInt64.ofNat

def optionalText? (v : α) : Option (Option String) :=
  if source.isNull v then some none else (source.text? v).map some

end Source

namespace ServerSettings

def fieldNames : List String := ["host", "port"]

/-- Takes the section; fields that are not given are those of `absent`. -/
def take? {α : Type} (source : Source α) (absent : ServerSettings) (v : α) :
    Option ServerSettings := do
  let fs ← source.fields? fieldNames v
  let host ← fs.orElse "host" absent.host source.text?
  let port ← fs.orElse "port" absent.port source.uint16?
  return { host, port }

def toJson (s : ServerSettings) : Json :=
  .record [("host", .text s.host), ("port", .nat s.port.toNat)]

end ServerSettings

namespace BackendSettings

def fieldNames : List String := ["base_url", "request_timeout"]

/-- Takes the section; fields that are not given are those of `absent`. -/
def take? {α : Type} (source : Source α) (absent : BackendSettings) (v : α) :
    Option BackendSettings := do
  let fs ← source.fields? fieldNames v
  let baseUrl ← fs.orElse "base_url" absent.baseUrl source.text?
  let requestTimeout ← fs.orElse "request_timeout" absent.requestTimeout source.uint64?
  return { baseUrl, requestTimeout }

def toJson (s : BackendSettings) : Json := .record [
  ("base_url", .text s.baseUrl), ("request_timeout", .nat s.requestTimeout.toNat)]

end BackendSettings

namespace SignInSettings

def fieldNames : List String :=
  ["login_url", "profile_path", "confirmation_redirect_delay_ms", "secure_cookies"]

/-- Takes the section; fields that are not given are those of `absent`. -/
def take? {α : Type} (source : Source α) (absent : SignInSettings) (v : α) :
    Option SignInSettings := do
  let fs ← source.fields? fieldNames v
  let loginUrl ← fs.orElse "login_url" absent.loginUrl source.text?
  let profilePath ← fs.orElse "profile_path" absent.profilePath source.text?
  let confirmationDelay ←
    fs.orElse "confirmation_redirect_delay_ms" absent.confirmationDelay source.uint64?
  let secureCookies ← fs.orElse "secure_cookies" absent.secureCookies source.bool?
  return { loginUrl, profilePath, confirmationDelay, secureCookies }

def toJson (s : SignInSettings) : Json := .record [
  ("login_url", .text s.loginUrl),
  ("profile_path", .text s.profilePath),
  ("confirmation_redirect_delay_ms", .nat s.confirmationDelay.toNat),
  ("secure_cookies", .bool s.secureCookies)]

end SignInSettings

namespace DashboardSettings

def fieldNames : List String := ["calls_page_size", "recent_calls_limit", "integrations_url"]

/-- Takes the section; fields that are not given are those of `absent`. -/
def take? {α : Type} (source : Source α) (absent : DashboardSettings) (v : α) :
    Option DashboardSettings := do
  let fs ← source.fields? fieldNames v
  let callsPageSize ← fs.orElse "calls_page_size" absent.callsPageSize source.uint32?
  let recentCallsLimit ← fs.orElse "recent_calls_limit" absent.recentCallsLimit source.uint32?
  let integrationsUrl ← fs.orElse "integrations_url" absent.integrationsUrl source.text?
  return { callsPageSize, recentCallsLimit, integrationsUrl }

def toJson (s : DashboardSettings) : Json := .record [
  ("calls_page_size", .nat s.callsPageSize.toNat),
  ("recent_calls_limit", .nat s.recentCallsLimit.toNat),
  ("integrations_url", .text s.integrationsUrl)]

end DashboardSettings

namespace AssistantSettings

def fieldNames : List String := ["enabled", "url"]

/-- Takes the section; fields that are not given are those of `absent`. -/
def take? {α : Type} (source : Source α) (absent : AssistantSettings) (v : α) :
    Option AssistantSettings := do
  let fs ← source.fields? fieldNames v
  let enabled ← fs.orElse "enabled" absent.enabled source.bool?
  let url ← fs.orElse "url" absent.url source.optionalText?
  return { enabled, url }

def toJson (s : AssistantSettings) : Json :=
  .record [("enabled", .bool s.enabled), ("url", .option .text s.url)]

end AssistantSettings

namespace DatabaseSettings

def fieldNames : List String :=
  ["url", "max_connections", "min_connections", "connect_timeout", "idle_timeout"]

/-- Takes the section; fields that are not given are those of `absent`. -/
def take? {α : Type} (source : Source α) (absent : DatabaseSettings) (v : α) :
    Option DatabaseSettings := do
  let fs ← source.fields? fieldNames v
  let url ← fs.orElse "url" absent.url source.text?
  let maxConnections ← fs.orElse "max_connections" absent.maxConnections source.uint32?
  let minConnections ← fs.orElse "min_connections" absent.minConnections source.uint32?
  let connectTimeout ← fs.orElse "connect_timeout" absent.connectTimeout source.uint64?
  let idleTimeout ← fs.orElse "idle_timeout" absent.idleTimeout source.uint64?
  return { url, maxConnections, minConnections, connectTimeout, idleTimeout }

def toJson (s : DatabaseSettings) : Json := .record [
  ("url", .text s.url),
  ("max_connections", .nat s.maxConnections.toNat),
  ("min_connections", .nat s.minConnections.toNat),
  ("connect_timeout", .nat s.connectTimeout.toNat),
  ("idle_timeout", .nat s.idleTimeout.toNat)]

end DatabaseSettings

namespace LogSettings

def fieldNames : List String := ["level", "format"]

/-- Takes the section; fields that are not given are those of `absent`. -/
def take? {α : Type} (source : Source α) (absent : LogSettings) (v : α) :
    Option LogSettings := do
  let fs ← source.fields? fieldNames v
  let level ← fs.orElse "level" absent.level source.text?
  let format ← fs.orElse "format" absent.format source.text?
  return { level, format }

def toJson (s : LogSettings) : Json :=
  .record [("level", .text s.level), ("format", .text s.format)]

def isJson (s : LogSettings) : Bool :=
  s.format.toList.map FileName.lower == ['j', 's', 'o', 'n']

end LogSettings

namespace Settings

def sectionNames : List String :=
  ["server", "backend", "auth", "dashboard", "assistant", "database", "logging"]

/-- Takes settings; what is not given is as in `absent`. -/
def take? {α : Type} (source : Source α) (absent : Settings) (v : α) : Option Settings := do
  let fs ← source.fields? sectionNames v
  let server ← fs.orElse "server" absent.server (ServerSettings.take? source absent.server)
  let backend ← fs.orElse "backend" absent.backend (BackendSettings.take? source absent.backend)
  let auth ← fs.orElse "auth" absent.auth (SignInSettings.take? source absent.auth)
  let dashboard ←
    fs.orElse "dashboard" absent.dashboard (DashboardSettings.take? source absent.dashboard)
  let assistant ←
    fs.orElse "assistant" absent.assistant (AssistantSettings.take? source absent.assistant)
  let database ←
    fs.orElse "database" absent.database (DatabaseSettings.take? source absent.database)
  let logging ← fs.orElse "logging" absent.logging (LogSettings.take? source absent.logging)
  return { server, backend, auth, dashboard, assistant, database, logging }

def toJson (s : Settings) : Json := .record [
  ("server", s.server.toJson),
  ("backend", s.backend.toJson),
  ("auth", s.auth.toJson),
  ("dashboard", s.dashboard.toJson),
  ("assistant", s.assistant.toJson),
  ("database", s.database.toJson),
  ("logging", s.logging.toJson)]

/-- Values of messages: nothing is converted. -/
def messageSource : Source Json where
  fields? := Json.fields?
  text? := Json.text?
  bool? := Json.bool?
  nat? := Json.natWithin?
  isNull v := match v with
    | .null => true
    | _ => false

def ofJson? (v : Json) : Option Settings := take? messageSource {} v

/-- The address that the web server listens on. -/
def bindAddress (s : Settings) : String :=
  s.server.host ++ ":" ++ Text.decimal s.server.port.toNat

end Settings

end CallDesk
