import EmployeeGateway.Record.Employee
import EmployeeGateway.Retry.Policy

/-!
# Settings

The service's settings: its version, debug flag and log level, the upstream's
base URL and timeout, and the retry budget (attempts, first delay and cap in
milliseconds, growth factor). `Settings.validate` reads them from named
values under the field rules, every name optional with its default and names
case-sensitive; names that are not settings are refused (`extra_forbidden`),
after the violations of the settings themselves, in the order given.
`Settings.construct` is the call that builds settings from named arguments:
it first sets aside the arguments that are reading options, and refuses one
that names the settings themselves.

`Policy.ofSettings` turns the retry settings into a policy: the two
millisecond counts are divided by 1000 into the nearest float (a quotient too
large to be finite is an overflow), and the policy is then checked.
-/

namespace EmployeeGateway

open Checked

/-- The service's settings. -/
structure Settings where
  appVersion : String
  debug : Bool
  logLevel : String
  baseUrl : String
  timeoutSeconds : Binary64
  retryMaxAttempts : Int
  retryInitialIntervalMs : Int
  retryMultiplier : Binary64
  retryMaxIntervalMs : Int

namespace Settings

/-- The title of settings reports. -/
def reportTitle : String := "Settings"

/-- Ten seconds. -/
def ten : Binary64 := .finite false (5 * Nat.pow 2 50) (-49)

/-- The settings when nothing is given. -/
def defaults : Settings :=
  ⟨"0.1.0", false, "INFO", "http://localhost:8112/api/v1/employee", ten, 3, 2000, Policy.two, 30000⟩

/-- The names of the settings, in field order. -/
def names : List String :=
  ["APP_VERSION", "DEBUG", "LOG_LEVEL", "EMPLOYEE_API_BASE_URL", "EMPLOYEE_API_TIMEOUT_SECONDS",
    "RETRY_MAX_ATTEMPTS", "RETRY_INITIAL_INTERVAL_MS", "RETRY_MULTIPLIER", "RETRY_MAX_INTERVAL_MS"]

/-- A boolean field. -/
def boolField (v : Value) : Checked Bool := leaf (Lax.bool v)

/-- A float field. -/
def floatField (v : Value) : Checked Binary64 := leaf (Lax.float v)

/-- Names given that are not settings. -/
def extras (ms : List (String × Value)) : Checked Unit :=
  match ms.filter (fun m => !names.contains m.1) with
  | [] => .ok ()
  | xs => .error (xs.map fun m => ⟨.extraForbidden, [.key m.1]⟩)

/-- Check settings given as named values. -/
def check (v : Value) : Checked Settings :=
  match object v with
  | .error e => .error e
  | .ok ms =>
    let d := defaults
    match both
        (both (optional ms "APP_VERSION" d.appVersion textField)
          (both (optional ms "DEBUG" d.debug boolField)
            (both (optional ms "LOG_LEVEL" d.logLevel textField)
              (both (optional ms "EMPLOYEE_API_BASE_URL" d.baseUrl textField)
                (both (optional ms "EMPLOYEE_API_TIMEOUT_SECONDS" d.timeoutSeconds floatField)
                  (both (optional ms "RETRY_MAX_ATTEMPTS" d.retryMaxAttempts intField)
                    (both (optional ms "RETRY_INITIAL_INTERVAL_MS" d.retryInitialIntervalMs intField)
                      (both (optional ms "RETRY_MULTIPLIER" d.retryMultiplier floatField)
                        (optional ms "RETRY_MAX_INTERVAL_MS" d.retryMaxIntervalMs intField)))))))))
        (extras ms) with
    | .ok ((a, b, c, e, f, g, h, i, j), ()) => .ok ⟨a, b, c, e, f, g, h, i, j⟩
    | .error e => .error e

/-- Validate settings given as named values. -/
def validate (v : Value) : Except Invalid Settings := report reportTitle (check v)

/-- The named arguments that set how settings are read (prefixes, files,
delimiters, command-line parsing) rather than naming a setting. -/
def readingOptions : List String :=
  ["_case_sensitive", "_nested_model_default_partial_update", "_env_prefix", "_env_file",
    "_env_file_encoding", "_env_ignore_empty", "_env_nested_delimiter", "_env_nested_max_split",
    "_env_parse_none_str", "_env_parse_enums", "_cli_prog_name", "_cli_parse_args",
    "_cli_settings_source", "_cli_parse_none_str", "_cli_hide_none_type", "_cli_avoid_json",
    "_cli_enforce_required", "_cli_use_class_docs_for_groups", "_cli_exit_on_error", "_cli_prefix",
    "_cli_flag_prefix_char", "_cli_implicit_flags", "_cli_ignore_unknown_args", "_cli_kebab_case",
    "_cli_shortcuts", "_secrets_dir"]

/-- The name under which the settings being built are passed to their own
constructor. -/
def selfName : String := "__pydantic_self__"

/-- Build settings from named arguments: an argument named `selfName`
clashes with the settings themselves and fails the call before anything is
read; reading options are set aside (no environment or file is read here, so
they change nothing); the rest is validated. -/
def construct (v : Value) : Except Fault Settings :=
  match v with
  | .obj ms =>
    if ms.any (·.1 == selfName) then
      .error (.typeError ("BaseSettings.__init__() got multiple values for argument '" ++ selfName ++ "'"))
    else (validate (.obj (ms.filter fun m => !readingOptions.contains m.1))).mapError .invalid
  | _ => (validate v).mapError .invalid

/-- The dump of the settings. -/
def toValue (s : Settings) : Value :=
  .obj [("APP_VERSION", .str s.appVersion), ("DEBUG", .bool s.debug), ("LOG_LEVEL", .str s.logLevel),
    ("EMPLOYEE_API_BASE_URL", .str s.baseUrl), ("EMPLOYEE_API_TIMEOUT_SECONDS", .float s.timeoutSeconds),
    ("RETRY_MAX_ATTEMPTS", .int s.retryMaxAttempts),
    ("RETRY_INITIAL_INTERVAL_MS", .int s.retryInitialIntervalMs),
    ("RETRY_MULTIPLIER", .float s.retryMultiplier),
    ("RETRY_MAX_INTERVAL_MS", .int s.retryMaxIntervalMs)]

end Settings

/-- A count of milliseconds in seconds, or an overflow fault. -/
def secondsOfMillis (ms : Int) : Except Fault Binary64 :=
  match Binary64.divInt? ms 1000 with
  | some x => .ok x
  | none => .error (.overflow "integer division result too large for a float")

/-- The retry policy of the settings. -/
def Policy.ofSettings (s : Settings) : Except Fault Policy := do
  let initial ← secondsOfMillis s.retryInitialIntervalMs
  let cap ← secondsOfMillis s.retryMaxIntervalMs
  Policy.make s.retryMaxAttempts initial s.retryMultiplier cap

end EmployeeGateway
