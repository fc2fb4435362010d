import AppSurvey.Value.Use

/-!
# What is offered

The calls that are offered, each with the arguments that it needs and those that it may have. A
call is checked before any of its work begins.
-/

namespace AppSurvey

/-- A call: what it belongs to, its name, and its arguments in order. -/
structure Form where
  owner : Option String := none
  name : String
  needed : List String
  optional : List String

namespace Form

/-- How messages name the call. -/
def title (form : Form) : String :=
  match form.owner with
  | some owner => owner ++ "." ++ form.name
  | none => form.name

/-- A call that belongs to something has that as its first argument, which is always given by its
place. -/
def receiver (form : Form) : List String :=
  match form.owner with
  | some _ => ["self"]
  | none => []

def arguments (form : Form) : List String := form.receiver ++ form.needed ++ form.optional

/-- Checks the names of arguments, of which the first `placed` are given by their place. -/
def checkNames (form : Form) (placed : Nat) (given : List String) : Except Misuse Unit :=
  given.forM fun name =>
    if !form.arguments.contains name then .error (.unknownArgument form.title name)
    else if (form.arguments.take placed).contains name then
      .error (.repeatedArgument form.title name)
    else .ok ()

/-- Checks a call: behind what it belongs to, `behind` arguments are given by their place, the others
by name. -/
def check (form : Form) (given : List String) (behind : Nat := 0) : Except Misuse Unit := do
  let first := form.receiver.length
  let placed := first + behind
  form.checkNames placed given
  if form.arguments.length < placed then
    let least := first + form.needed.length
    throw (.tooManyArguments form.title least form.arguments.length placed)
  let missing := (form.needed.drop behind).filter fun name => !given.contains name
  unless missing.isEmpty do throw (.missingArguments form.title missing)

/-- The argument of a call by its name, or by its place if it has one. -/
def argument? (form : Form) (placed : List Value) (given : List (String × Value)) (name : String) :
    Option Value :=
  match given.lookup name with
  | some value => some value
  | none => placed[(form.needed ++ form.optional).idxOf name]?

/-- Calls that belong to nothing. -/
def free (calls : List (String × List String × List String)) : List Form :=
  calls.map fun (name, needed, optional) => { name, needed, optional }

/-- Calls that belong to something. -/
def belonging (owner : String) (calls : List (String × List String × List String)) : List Form :=
  calls.map fun (name, needed, optional) => { owner := some owner, name, needed, optional }

/-- Fetching many pages. -/
def fetching : List Form :=
  free
    [("fetch_apps", ["app_ids", "countries"], ["lang"]),
      ("fetch_category_lists", ["countries", "categories"], ["collection", "lang", "num_results"]),
      ("search_apps", ["queries", "countries"], ["lang"]),
      ("fetch_reviews", ["app_ids", "countries"], ["lang", "sort"]),
      ("fetch_top_apps", ["countries", "categories"], ["collection", "num_results", "lang"]),
      ("fetch_multi_country_apps", ["app_id", "countries"], ["lang"])]
  ++ belonging "BatchFetcher"
    [("__init__", [], ["lang", "default_num_results", "default_collection"]),
      ("apps", ["app_ids", "countries"], ["lang"]),
      ("category_lists", ["countries", "categories"], ["collection", "num_results", "lang"]),
      ("search", ["queries", "countries"], ["lang"]),
      ("get_builder_stats", [], [])]

/-- Building requests. -/
def building : List Form :=
  belonging "BatchRequestBuilder"
    [("__init__", [], ["collection", "lang", "num_results", "intern_strings"]),
      ("build_list_requests", ["countries", "categories"], ["collection", "lang", "num"]),
      ("build_app_requests", ["app_ids", "countries"], ["lang"]),
      ("build_search_requests", ["queries", "countries"], ["lang"]),
      ("build_review_requests", ["app_ids", "countries"], ["lang", "sort", "continuation_token"])]
  ++ free
    [("build_multi_country_requests", ["countries", "categories"], ["collection", "num_results"]),
      ("build_app_country_matrix", ["app_ids", "countries"], ["lang"])]

/-- The clients of the store. -/
def clients : List Form :=
  belonging "RustClient"
    [("__init__", [], ["timeout", "lang"]),
      ("get_app", ["app_id"], ["lang", "country"]),
      ("get_reviews", ["app_id"], ["lang", "country", "sort", "continuation_token"]),
      ("get_all_reviews", ["app_id"], ["lang", "country", "sort", "max_pages"]),
      ("search", ["query"], ["lang", "country", "n_hits"]),
      ("list", ["collection"], ["category", "lang", "country", "num"]),
      ("get_category", ["category"], ["collection", "lang", "country", "num"]),
      ("get_app_async", ["app_id"], ["lang", "country"]),
      ("get_apps_parallel", ["app_ids"], ["countries", "lang", "max_workers"])]
  ++ free
    [("quick_get_app", ["app_id"], ["country", "timeout"])]
  ++ belonging "AsyncClient"
    [("__init__", [], ["max_concurrent", "timeout", "headers", "lang"]),
      ("_fetch_html", ["url"], ["params"]),
      ("get_app", ["app_id"], ["lang", "country"]),
      ("get_apps_parallel", ["app_ids"], ["countries", "lang"]),
      ("stream_reviews", ["app_id"], ["lang", "country", "sort", "max_pages"]),
      ("search", ["query"], ["lang", "country", "n_hits"]),
      ("list", ["collection"], ["category", "lang", "country", "num"]),
      ("close", [], [])]

/-- The failures of the store. -/
def failures : List Form :=
  belonging "AppNotFoundError"
    [("__init__", ["app_id"], ["message"])]
  ++ belonging "RateLimitError"
    [("__init__", [], ["retry_after", "message"])]
  ++ belonging "ParseError"
    [("__init__", ["message"], ["html_snippet"])]
  ++ belonging "NetworkError"
    [("__init__", ["url"], ["status_code", "message"])]
  ++ belonging "ValidationError"
    [("__init__", ["field", "value"], ["message"])]
  ++ belonging "TimeoutError"
    [("__init__", ["operation", "timeout"], [])]

/-- The study of a package. -/
def studies : List Form :=
  belonging "ApkAnalyzer"
    [("__init__", ["apk_path"], ["load_classes"]),
      ("_load_info", [], []),
      ("load_classes", [], ["parallel"]),
      ("find_classes", [], ["package", "exclude_packages", "name", "limit", "parallel"]),
      ("find_methods", [],
        ["method_name", "param_count", "return_type", "class_package",
          "class_name", "limit", "parallel"]),
      ("find_activities", [], ["package", "limit"]),
      ("find_services", [], ["package", "limit"]),
      ("find_receivers", [], ["package", "limit"]),
      ("get_app_classes", [], ["limit"]),
      ("get_statistics", [], []),
      ("get_all_packages", [], []),
      ("get_package_groups", [], []),
      ("get_third_party_libraries", [], []),
      ("find_webview_usage", [], []),
      ("analyze_entry_points", [], []),
      ("find_webview_flows", [], ["max_depth", "optimize"]),
      ("find_file_flows", [], ["max_depth"]),
      ("find_network_flows", [], ["max_depth"]),
      ("find_sql_flows", [], ["max_depth"]),
      ("find_custom_flows", ["sink_patterns"], ["max_depth"]),
      ("find_deeplink_flows", [], ["sink_type", "max_depth"])]

/-- Downloading packages. -/
def downloads : List Form :=
  belonging "ApkDownloader"
    [("__init__", ["email"], ["oauth_token", "aas_token", "device", "locale", "timezone"]),
      ("login", [], []),
      ("save_credentials", ["path"], []),
      ("get_aas_token", [], []),
      ("download", ["package_id"], ["dest_path", "version_code", "progress_callback"]),
      ("get_package_details", ["package_id"], [])]

/-- Running the commands of a release. -/
def commands : List Form :=
  free
    [("run", ["cmd"], ["check", "cwd", "capture_output", "env"]),
      ("run_interactive", ["cmd"], ["check", "cwd", "env"]),
      ("run_command", ["cmd"], ["check", "env"]),
      ("has_changes", [], [])]

/-- All calls. -/
def all : List Form :=
  fetching ++ building ++ clients ++ failures ++ studies ++ downloads ++ commands

/-- The call of a title. -/
def ofTitle? (title : String) : Option Form := all.find? fun form => form.title == title

/-- Checks the call of a title with its arguments. -/
def checkCall (title : String) (given : List String) (behind : Nat := 0) : Except Misuse Unit :=
  match ofTitle? title with
  | some form => form.check given behind
  | none => .ok ()

end Form

end AppSurvey
