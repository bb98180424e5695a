import FlowRunner.Callback.Message
import FlowRunner.Pool.Basic
import FlowRunner.Schema.Lenient
import FlowRunner.Text.LowerCase

/-!
This module contains the settings of a worker, how they are read, and which part of them each
component gets.
-/

namespace FlowRunner

structure Settings where
  host : String := "0.0.0.0"
  listenPort : Int := 3001
  debug : Bool := false
  logFormat : String := "text"
  logLevel : String := "INFO"
  workerSecret : Option String := none
  poolMaxSessions : Int := 3
  browserHeadless : Bool := true
  browserViewportWidth : Int := 1280
  browserViewportHeight : Int := 720
  browserUserAgent : String :=
    "Mozilla/5.0 (Windows NT 10.0; Win64; x64) AppleWebKit/537.36 (KHTML, like Gecko) " ++
      "Chrome/131.0.0.0 Safari/537.36"
  browserLaunchArguments : List String := ["--no-sandbox", "--disable-setuid-sandbox"]
  callbackTimeoutSeconds : Binary64 := .finite false (10 * Binary64.unitsInOne)
  captureMaxElements : Int := 200
  deriving Repr, Inhabited

namespace Settings

open Schema

def names : List String :=
  ["HOST", "PORT", "DEBUG", "LOG_FORMAT", "LOG_LEVEL", "WORKER_SECRET", "POOL_MAX_SESSIONS",
    "BROWSER_HEADLESS", "BROWSER_VIEWPORT_WIDTH", "BROWSER_VIEWPORT_HEIGHT", "BROWSER_USER_AGENT",
    "BROWSER_LAUNCH_ARGS", "CALLBACK_TIMEOUT_SECONDS", "CAPTURE_MAX_ELEMENTS"]

def named? (name : String) : Option String :=
  let name := Text.lowered name
  names.find? fun setting => Text.lowered setting == name

def known (es : Entries) : Entries :=
  es.filterMap fun e =>
    match e.1 with
    | .str s => (named? s).map fun name => (.str name, e.2)
    | _ => none

def readKnown (es : Entries) : Checked Settings :=
  let standard : Settings := {}
  let setting {α : Type} (name : String) (default : α) (read : Reader α) : Checked α :=
    optional ⟨name, []⟩ default read (known es)
  Settings.mk
    <$> setting "HOST" standard.host Reader.text
    <*> setting "PORT" standard.listenPort Reader.int
    <*> setting "DEBUG" standard.debug Reader.bool
    <*> setting "LOG_FORMAT" standard.logFormat Reader.text
    <*> setting "LOG_LEVEL" standard.logLevel Reader.text
    <*> setting "WORKER_SECRET" standard.workerSecret (Reader.nullable Reader.text)
    <*> setting "POOL_MAX_SESSIONS" standard.poolMaxSessions Reader.int
    <*> setting "BROWSER_HEADLESS" standard.browserHeadless Reader.bool
    <*> setting "BROWSER_VIEWPORT_WIDTH" standard.browserViewportWidth Reader.int
    <*> setting "BROWSER_VIEWPORT_HEIGHT" standard.browserViewportHeight Reader.int
    <*> setting "BROWSER_USER_AGENT" standard.browserUserAgent Reader.text
    <*> setting "BROWSER_LAUNCH_ARGS" standard.browserLaunchArguments (Reader.list Reader.text)
    <*> setting "CALLBACK_TIMEOUT_SECONDS" standard.callbackTimeoutSeconds Reader.float
    <*> setting "CAPTURE_MAX_ELEMENTS" standard.captureMaxElements Reader.int

def sourceOptions : List String :=
  ["_case_sensitive", "_nested_model_default_partial_update", "_env_prefix", "_env_prefix_target",
    "_env_file", "_env_file_encoding", "_env_ignore_empty", "_env_nested_delimiter",
    "_env_nested_max_split", "_env_parse_none_str", "_env_parse_enums", "_cli_prog_name",
    "_cli_parse_args", "_cli_settings_source", "_cli_parse_none_str", "_cli_hide_none_type",
    "_cli_avoid_json", "_cli_enforce_required", "_cli_use_class_docs_for_groups",
    "_cli_exit_on_error", "_cli_prefix", "_cli_flag_prefix_char", "_cli_implicit_flags",
    "_cli_ignore_unknown_args", "_cli_kebab_case", "_cli_shortcuts", "_secrets_dir",
    "_build_sources"]

def isKnown (name : String) : Bool :=
  (named? name).isSome || sourceOptions.contains name

def unknownProblem? (entry : Key × Value) : Option Problem :=
  match entry with
  | (.str s, v) => if isKnown s then none else some ⟨[.name s], .unknownField, v⟩
  | _ => none

def refuseUnknown (es : Entries) : Checked Unit :=
  let unknown := es.filterMap unknownProblem?
  if unknown.isEmpty then .valid () else .invalid unknown

def clamped (s : Settings) : Settings :=
  { s with poolMaxSessions := max 1 s.poolMaxSessions }

def read (es : Entries) : Checked Settings :=
  (fun s _ => s.clamped) <$> readKnown es <*> refuseUnknown es

def toValue (s : Settings) : Value :=
  .record [("HOST", .str s.host), ("PORT", .int s.listenPort), ("DEBUG", .bool s.debug),
    ("LOG_FORMAT", .str s.logFormat), ("LOG_LEVEL", .str s.logLevel),
    ("WORKER_SECRET", match s.workerSecret with
      | some secret => .str secret
      | none => .null),
    ("POOL_MAX_SESSIONS", .int s.poolMaxSessions), ("BROWSER_HEADLESS", .bool s.browserHeadless),
    ("BROWSER_VIEWPORT_WIDTH", .int s.browserViewportWidth),
    ("BROWSER_VIEWPORT_HEIGHT", .int s.browserViewportHeight),
    ("BROWSER_USER_AGENT", .str s.browserUserAgent),
    ("BROWSER_LAUNCH_ARGS", .texts s.browserLaunchArguments),
    ("CALLBACK_TIMEOUT_SECONDS", .float s.callbackTimeoutSeconds),
    ("CAPTURE_MAX_ELEMENTS", .int s.captureMaxElements)]

def pool (s : Settings) : Pool :=
  { maxSessions := s.poolMaxSessions
    settings := {
      headless := s.browserHeadless
      width := s.browserViewportWidth
      height := s.browserViewportHeight
      userAgent := some s.browserUserAgent
      launchArguments := s.browserLaunchArguments } }

end Settings

end FlowRunner
