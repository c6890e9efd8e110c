import CallDesk.Proofs.Settings.Tree
import CallDesk.Settings.Layers

/-! # The fields of the settings

Settings are their fields: each has a place, a default and a kind of value that it is taken as. What a record
of settings is taken from settles each field by itself, whether its section is there or not.
-/

namespace CallDesk.Settings

/-- A field of the settings, with the type of its values. -/
inductive Field : Type → Type where
  | host : Field String
  | port : Field UInt16
  | baseUrl : Field String
  | requestTimeout : Field UInt64
  | loginUrl : Field String
  | profilePath : Field String
  | confirmationDelay : Field UInt64
  | secureCookies : Field Bool
  | callsPageSize : Field UInt32
  | recentCallsLimit : Field UInt32
  | integrationsUrl : Field String
  | assistantEnabled : Field Bool
  | assistantUrl : Field (Option String)
  | databaseUrl : Field String
  | maxConnections : Field UInt32
  | minConnections : Field UInt32
  | connectTimeout : Field UInt64
  | idleTimeout : Field UInt64
  | logLevel : Field String
  | logFormat : Field String

namespace Field

variable {α β : Type}

/-- The name of the section of a field. -/
def part : Field α → String
  | host | port => "server"
  | baseUrl | requestTimeout => "backend"
  | loginUrl | profilePath | confirmationDelay | secureCookies => "auth"
  | callsPageSize | recentCallsLimit | integrationsUrl => "dashboard"
  | assistantEnabled | assistantUrl => "assistant"
  | databaseUrl | maxConnections | minConnections | connectTimeout | idleTimeout => "database"
  | logLevel | logFormat => "logging"

/-- The name of a field in its section. -/
def name : Field α → String
  | host => "host"
  | port => "port"
  | baseUrl => "base_url"
  | requestTimeout => "request_timeout"
  | loginUrl => "login_url"
  | profilePath => "profile_path"
  | confirmationDelay => "confirmation_redirect_delay_ms"
  | secureCookies => "secure_cookies"
  | callsPageSize => "calls_page_size"
  | recentCallsLimit => "recent_calls_limit"
  | integrationsUrl => "integrations_url"
  | assistantEnabled => "enabled"
  | assistantUrl => "url"
  | databaseUrl => "url"
  | maxConnections => "max_connections"
  | minConnections => "min_connections"
  | connectTimeout => "connect_timeout"
  | idleTimeout => "idle_timeout"
  | logLevel => "level"
  | logFormat => "format"

/-- What settings say in a field. -/
def get : Field α → Settings → α
  | host, s => s.server.host
  | port, s => s.server.port
  | baseUrl, s => s.backend.baseUrl
  | requestTimeout, s => s.backend.requestTimeout
  | loginUrl, s => s.auth.loginUrl
  | profilePath, s => s.auth.profilePath
  | confirmationDelay, s => s.auth.confirmationDelay
  | secureCookies, s => s.auth.secureCookies
  | callsPageSize, s => s.dashboard.callsPageSize
  | recentCallsLimit, s => s.dashboard.recentCallsLimit
  | integrationsUrl, s => s.dashboard.integrationsUrl
  | assistantEnabled, s => s.assistant.enabled
  | assistantUrl, s => s.assistant.url
  | databaseUrl, s => s.database.url
  | maxConnections, s => s.database.maxConnections
  | minConnections, s => s.database.minConnections
  | connectTimeout, s => s.database.connectTimeout
  | idleTimeout, s => s.database.idleTimeout
  | logLevel, s => s.logging.level
  | logFormat, s => s.logging.format

/-- Takes a value as one of a field. -/
def read? : Field α → Tree → Option α
  | host | baseUrl | loginUrl | profilePath | integrationsUrl | databaseUrl | logLevel | logFormat => Tree.source.text?
  | port => Tree.source.uint16?
  | requestTimeout | confirmationDelay | connectTimeout | idleTimeout => Tree.source.uint64?
  | callsPageSize | recentCallsLimit | maxConnections | minConnections => Tree.source.uint32?
  | secureCookies | assistantEnabled => Tree.source.bool?
  | assistantUrl => Tree.source.optionalText?

/-- The value of a field that nothing sets, where a variable may tell the address of the database. -/
def default (databaseVariable : Option String) : Field α → α
  | host => "0.0.0.0"
  | port => 3000
  | baseUrl => "http://localhost:8000/api/v1"
  | requestTimeout => 30
  | loginUrl => "/"
  | profilePath => "/auth/create-profile"
  | confirmationDelay => 3000
  | secureCookies => false
  | callsPageSize => 20
  | recentCallsLimit => 5
  | integrationsUrl => "/dashboard"
  | assistantEnabled => false
  | assistantUrl => none
  | databaseUrl => databaseVariable.getD "postgresql://localhost/voxdial"
  | maxConnections => 5
  | minConnections => 1
  | connectTimeout => 30
  | idleTimeout => 600
  | logLevel => "info"
  | logFormat => "json"

/-- The name of the variable that sets a field, in lower case. -/
def variableName (f : Field α) : String := "voxdial__" ++ f.part ++ "__" ++ f.name

end Field

/-- The settings with a value in each field. -/
def ofFields (value : (α : Type) → Field α → α) : Settings where
  server := { host := value _ .host, port := value _ .port }
  backend := { baseUrl := value _ .baseUrl, requestTimeout := value _ .requestTimeout }
  auth := { loginUrl := value _ .loginUrl, profilePath := value _ .profilePath,
            confirmationDelay := value _ .confirmationDelay, secureCookies := value _ .secureCookies }
  dashboard := { callsPageSize := value _ .callsPageSize, recentCallsLimit := value _ .recentCallsLimit,
                 integrationsUrl := value _ .integrationsUrl }
  assistant := { enabled := value _ .assistantEnabled, url := value _ .assistantUrl }
  database := { url := value _ .databaseUrl, maxConnections := value _ .maxConnections,
                minConnections := value _ .minConnections, connectTimeout := value _ .connectTimeout,
                idleTimeout := value _ .idleTimeout }
  logging := { level := value _ .logLevel, format := value _ .logFormat }

theorem get_ofFields (value : (α : Type) → Field α → α) {α : Type} (f : Field α) :
    f.get (ofFields value) = value α f := by
  cases f <;> rfl

/-- Settings are their fields. -/
theorem eq_of_fields {s t : Settings} (same : ∀ (α : Type) (f : Field α), f.get s = f.get t) : s = t := by
  have whole (r : Settings) : ofFields (fun _ f => f.get r) = r := rfl
  have values : (fun (α : Type) (f : Field α) => f.get s) = fun α f => f.get t := funext fun α => funext (same α)
  rw [← whole s, ← whole t, values]

theorem get_defaults {α : Type} (f : Field α) (vars : Variables) :
    f.get (defaults vars) = f.default (vars.lookup databaseVariable) := by
  rw [defaults]
  cases vars.lookup databaseVariable <;> cases f <;> rfl

/-- The fields are those of the sections. -/
theorem part_mem_sectionNames {α : Type} (f : Field α) : f.part ∈ sectionNames := by
  cases f <;> decide

/-! ## Taking fields -/

/-- What a value settles that may be given: one that is not given leaves what holds in its absence. -/
def settle? {α : Type} (given : Option Tree) (absent : α) (read : Tree → Option α) : Option α :=
  match given with
  | none => some absent
  | some v => read v

theorem lookup_filter {α : Type} {names : List String} {key : String} (listed : names.contains key = true)
    (ms : List (String × α)) : (ms.filter fun m => names.contains m.1).lookup key = ms.lookup key := by
  induction ms with
  | nil => rfl
  | cons m ms ih =>
    obtain ⟨n, v⟩ := m
    rw [List.filter_cons, Members.lookup_cons]
    split
    · rw [Members.lookup_cons, ih]
    · next unlisted =>
      have other : key ≠ n := fun same => unlisted (by rw [← same]; exact listed)
      rw [ih, if_neg other]

section

variable {α β : Type} {names : List String} {key : String}

/-- A field of a record is settled by the member of its name, before what comes after it. -/
theorem orElse_bind_iff (listed : names.contains key = true) (ms : List (String × Tree)) (absent : α)
    (read : Tree → Option α) (next : α → Option β) (b : β) :
    (Fields.orElse (ms.filter fun m => names.contains m.1) key absent read >>= next) = some b ↔
      ∃ a, settle? (ms.lookup key) absent read = some a ∧ next a = some b := by
  have settled : Fields.orElse (ms.filter fun m => names.contains m.1) key absent read =
      settle? (ms.lookup key) absent read := by
    rw [Fields.orElse, lookup_filter listed]
    cases ms.lookup key <;> rfl
  rw [settled, Option.bind_eq_bind, Option.bind_eq_some_iff]

theorem fields?_bind (names : List String) (ms : List (String × Tree)) (next : Fields Tree → Option β) :
    (Tree.source.fields? names (.table ms) >>= next) = next (ms.filter fun m => names.contains m.1) := rfl

end

section

variable (ms : List (String × Tree))

theorem server_take (absent s : ServerSettings) :
    ServerSettings.take? Tree.source absent (.table ms) = some s ↔
      settle? (ms.lookup "host") absent.host Tree.source.text? = some s.host ∧
      settle? (ms.lookup "port") absent.port Tree.source.uint16? = some s.port := by
  obtain ⟨host, port⟩ := s
  simp (disch := decide) only [ServerSettings.take?, fields?_bind, orElse_bind_iff, Option.pure_def, Option.some.injEq,
    ServerSettings.mk.injEq, existsAndEq, and_true]

theorem backend_take (absent s : BackendSettings) :
    BackendSettings.take? Tree.source absent (.table ms) = some s ↔
      settle? (ms.lookup "base_url") absent.baseUrl Tree.source.text? = some s.baseUrl ∧
      settle? (ms.lookup "request_timeout") absent.requestTimeout Tree.source.uint64? = some s.requestTimeout := by
  obtain ⟨baseUrl, requestTimeout⟩ := s
  simp (disch := decide) only [BackendSettings.take?, fields?_bind, orElse_bind_iff, Option.pure_def, Option.some.injEq,
    BackendSettings.mk.injEq, existsAndEq, and_true]

theorem signIn_take (absent s : SignInSettings) :
    SignInSettings.take? Tree.source absent (.table ms) = some s ↔
      settle? (ms.lookup "login_url") absent.loginUrl Tree.source.text? = some s.loginUrl ∧
      settle? (ms.lookup "profile_path") absent.profilePath Tree.source.text? = some s.profilePath ∧
      settle? (ms.lookup "confirmation_redirect_delay_ms") absent.confirmationDelay Tree.source.uint64? =
        some s.confirmationDelay ∧
      settle? (ms.lookup "secure_cookies") absent.secureCookies Tree.source.bool? = some s.secureCookies := by
  obtain ⟨loginUrl, profilePath, confirmationDelay, secureCookies⟩ := s
  simp (disch := decide) only [SignInSettings.take?, fields?_bind, orElse_bind_iff, Option.pure_def, Option.some.injEq,
    SignInSettings.mk.injEq, existsAndEq, and_true]

theorem dashboard_take (absent s : DashboardSettings) :
    DashboardSettings.take? Tree.source absent (.table ms) = some s ↔
      settle? (ms.lookup "calls_page_size") absent.callsPageSize Tree.source.uint32? = some s.callsPageSize ∧
      settle? (ms.lookup "recent_calls_limit") absent.recentCallsLimit Tree.source.uint32? =
        some s.recentCallsLimit ∧
      settle? (ms.lookup "integrations_url") absent.integrationsUrl Tree.source.text? = some s.integrationsUrl := by
  obtain ⟨callsPageSize, recentCallsLimit, integrationsUrl⟩ := s
  simp (disch := decide) only [DashboardSettings.take?, fields?_bind, orElse_bind_iff, Option.pure_def,
    Option.some.injEq, DashboardSettings.mk.injEq, existsAndEq, and_true]

theorem assistant_take (absent s : AssistantSettings) :
    AssistantSettings.take? Tree.source absent (.table ms) = some s ↔
      settle? (ms.lookup "enabled") absent.enabled Tree.source.bool? = some s.enabled ∧
      settle? (ms.lookup "url") absent.url Tree.source.optionalText? = some s.url := by
  obtain ⟨enabled, url⟩ := s
  simp (disch := decide) only [AssistantSettings.take?, fields?_bind, orElse_bind_iff, Option.pure_def,
    Option.some.injEq, AssistantSettings.mk.injEq, existsAndEq, and_true]

theorem database_take (absent s : DatabaseSettings) :
    DatabaseSettings.take? Tree.source absent (.table ms) = some s ↔
      settle? (ms.lookup "url") absent.url Tree.source.text? = some s.url ∧
      settle? (ms.lookup "max_connections") absent.maxConnections Tree.source.uint32? = some s.maxConnections ∧
      settle? (ms.lookup "min_connections") absent.minConnections Tree.source.uint32? = some s.minConnections ∧
      settle? (ms.lookup "connect_timeout") absent.connectTimeout Tree.source.uint64? = some s.connectTimeout ∧
      settle? (ms.lookup "idle_timeout") absent.idleTimeout Tree.source.uint64? = some s.idleTimeout := by
  obtain ⟨url, maxConnections, minConnections, connectTimeout, idleTimeout⟩ := s
  simp (disch := decide) only [DatabaseSettings.take?, fields?_bind, orElse_bind_iff, Option.pure_def,
    Option.some.injEq, DatabaseSettings.mk.injEq, existsAndEq, and_true]

theorem log_take (absent s : LogSettings) :
    LogSettings.take? Tree.source absent (.table ms) = some s ↔
      settle? (ms.lookup "level") absent.level Tree.source.text? = some s.level ∧
      settle? (ms.lookup "format") absent.format Tree.source.text? = some s.format := by
  obtain ⟨level, format⟩ := s
  simp (disch := decide) only [LogSettings.take?, fields?_bind, orElse_bind_iff, Option.pure_def, Option.some.injEq,
    LogSettings.mk.injEq, existsAndEq, and_true]

end

/-- A section that is not there is as good as an empty one. -/
theorem settle?_section {α : Type} {given : Option Tree} {absent : α} (take : Tree → Option α)
    (empty : take (.table []) = some absent) (table : ∀ v ∈ given, ∃ ms, v = .table ms) :
    settle? given absent take = take (.table ((given.map Tree.members).getD [])) := by
  cases given with
  | none => exact empty.symm
  | some v =>
    obtain ⟨ms, rfl⟩ := table v rfl
    rfl

/-- A table whose sections are tables. -/
structure Sectioned (t : Tree) : Prop where
  table : ∃ ms, t = .table ms
  sections : ∀ part ∈ sectionNames, ∀ v ∈ t.member? part, ∃ ms, v = .table ms

/-- Each field is settled by itself, by what there is at its place. -/
theorem take?_iff {absent s : Settings} {t : Tree} (sectioned : Sectioned t) :
    take? Tree.source absent t = some s ↔
      ∀ (α : Type) (f : Field α), settle? (t.at? f.part f.name) (f.get absent) f.read? = some (f.get s) := by
  obtain ⟨⟨ms, rfl⟩, tables⟩ := sectioned
  have place (part name : String) :
      (((ms.lookup part).map Tree.members).getD []).lookup name = (Tree.table ms).at? part name := by
    change _ = (ms.lookup part).bind (Tree.member? · name)
    cases ms.lookup part <;> rfl
  have whole : take? Tree.source absent (.table ms) = some s ↔
      settle? (ms.lookup "server") absent.server (ServerSettings.take? Tree.source absent.server) = some s.server ∧
      settle? (ms.lookup "backend") absent.backend (BackendSettings.take? Tree.source absent.backend) =
        some s.backend ∧
      settle? (ms.lookup "auth") absent.auth (SignInSettings.take? Tree.source absent.auth) = some s.auth ∧
      settle? (ms.lookup "dashboard") absent.dashboard (DashboardSettings.take? Tree.source absent.dashboard) =
        some s.dashboard ∧
      settle? (ms.lookup "assistant") absent.assistant (AssistantSettings.take? Tree.source absent.assistant) =
        some s.assistant ∧
      settle? (ms.lookup "database") absent.database (DatabaseSettings.take? Tree.source absent.database) =
        some s.database ∧
      settle? (ms.lookup "logging") absent.logging (LogSettings.take? Tree.source absent.logging) =
        some s.logging := by
    obtain ⟨server, backend, auth, dashboard, assistant, database, logging⟩ := s
    simp (disch := decide) only [take?, fields?_bind, orElse_bind_iff, Option.pure_def, Option.some.injEq,
      Settings.mk.injEq, existsAndEq, and_true]
  have at_part (part : String) (listed : part ∈ sectionNames) :
      ∀ v ∈ ms.lookup part, ∃ ns, v = .table ns := tables part listed
  rw [whole, settle?_section (ServerSettings.take? _ _) rfl (at_part "server" (by decide)),
    settle?_section (BackendSettings.take? _ _) rfl (at_part "backend" (by decide)),
    settle?_section (SignInSettings.take? _ _) rfl (at_part "auth" (by decide)),
    settle?_section (DashboardSettings.take? _ _) rfl (at_part "dashboard" (by decide)),
    settle?_section (AssistantSettings.take? _ _) rfl (at_part "assistant" (by decide)),
    settle?_section (DatabaseSettings.take? _ _) rfl (at_part "database" (by decide)),
    settle?_section (LogSettings.take? _ _) rfl (at_part "logging" (by decide)), server_take, backend_take, signIn_take,
    dashboard_take, assistant_take, database_take, log_take]
  simp only [place]
  constructor
  · rintro ⟨⟨host, port⟩, ⟨baseUrl, requestTimeout⟩, ⟨loginUrl, profilePath, confirmationDelay, secureCookies⟩,
      ⟨callsPageSize, recentCallsLimit, integrationsUrl⟩, ⟨enabled, assistantUrl⟩,
      ⟨databaseUrl, maxConnections, minConnections, connectTimeout, idleTimeout⟩, level, format⟩ α f
    cases f <;> assumption
  · intro each
    exact ⟨⟨each _ .host, each _ .port⟩, ⟨each _ .baseUrl, each _ .requestTimeout⟩,
      ⟨each _ .loginUrl, each _ .profilePath, each _ .confirmationDelay, each _ .secureCookies⟩,
      ⟨each _ .callsPageSize, each _ .recentCallsLimit, each _ .integrationsUrl⟩,
      ⟨each _ .assistantEnabled, each _ .assistantUrl⟩,
      ⟨each _ .databaseUrl, each _ .maxConnections, each _ .minConnections, each _ .connectTimeout,
        each _ .idleTimeout⟩, each _ .logLevel, each _ .logFormat⟩

/-- Settings are taken when each field can be. -/
theorem take?_eq_none_iff {absent : Settings} {t : Tree} (sectioned : Sectioned t) :
    take? Tree.source absent t = none ↔
      ∃ (α : Type) (f : Field α), settle? (t.at? f.part f.name) (f.get absent) f.read? = none := by
  constructor
  · intro refused
    by_contra settled
    have taken : ∀ (α : Type) (f : Field α), ∃ a, settle? (t.at? f.part f.name) (f.get absent) f.read? = some a :=
      fun α f => Option.ne_none_iff_exists'.mp fun stuck => settled ⟨α, f, stuck⟩
    choose value settles using taken
    have made : take? Tree.source absent t = some (ofFields value) :=
      (take?_iff sectioned).mpr fun α f => by rw [get_ofFields]; exact settles α f
    rw [refused] at made
    cases made
  · rintro ⟨α, f, stuck⟩
    by_contra taken
    obtain ⟨s, made⟩ := Option.ne_none_iff_exists'.mp taken
    have settled := (take?_iff sectioned).mp made α f
    rw [stuck] at settled
    cases settled

end CallDesk.Settings
