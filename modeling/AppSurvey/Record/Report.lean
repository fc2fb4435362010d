import AppSurvey.Record.Flow
import AppSurvey.Record.Package
import AppSurvey.Record.Store
import AppSurvey.Store.RequestBuilder
import AppSurvey.Store.Vocabulary

/-!
# Reports

What is told about things: their records, with their summaries and what else follows from them.
-/

namespace AppSurvey

open Dex Apk Store

instance : Report Instruction where
  report instruction :=
    let listing := Listing.ofInstruction instruction
    .record [
      fieldOf "dict" listing, fieldOf "is_const" listing.isConst,
      fieldOf "is_invoke" listing.isInvoke, fieldOf "boolean" listing.boolean?,
      fieldOf "repr" listing.raw, fieldOf "display" instruction.text,
      fieldOf "data" instruction.data?]

instance : Report Signature where
  report signature := .record [
    fieldOf "dict" signature, fieldOf "simple_class_name" signature.simpleClassName,
    fieldOf "is_webview" signature.isWebView,
    fieldOf "is_set_javascript_enabled" signature.enablesScripts,
    fieldOf "is_add_javascript_interface" signature.addsScriptInterface,
    fieldOf "repr" signature.full]

instance : Report Expression := ⟨fun expression => summarized expression expression.summary⟩

instance : Report MethodOutline where
  report method :=
    (summarized method method.summary).put [("expressions", report method.expressions)]

instance : Report ClassOutline where
  report outline :=
    (summarized outline outline.summary).put [("methods", report outline.methods)]

instance : Report Field :=
  ⟨fun field => .record [fieldOf "dict" field, fieldOf "repr" field.summary]⟩

instance : Report Method where
  report method := .record [
    fieldOf "dict" method, fieldOf "is_static_initializer" method.isStaticInitializer,
    fieldOf "repr" method.summary]

instance : Report Class := ⟨fun c => .record [fieldOf "dict" c, fieldOf "repr" c.summary]⟩

instance : Report RegisterValue where
  report value := .record [fieldOf "format" value.text, fieldOf "is_boolean" value.boolean?]

instance : Report Flow.CallPath where
  report path :=
    (summarized path path.summary).put [("calls", .list (path.calls.map fun call =>
      .record [fieldOf "call_site" call.site, fieldOf "repr" call.summary]))]

instance : Report IntentFilter := ⟨fun filter => summarized filter filter.summary⟩

instance : Report Manifest where
  report manifest := .record [
    fieldOf "dict" manifest, fieldOf "repr" manifest.summary,
    ("intent_filters", report manifest.filters),
    fieldOf "deeplinks" (manifest.deeplinks.map IntentFilter.activity)]

instance : Report EntryPoint where
  report entry := (summarized entry entry.summary).put [("intent_filters", report entry.filters)]

instance : Report (EntryPoint × ClassOutline) where
  report pair := .record [fieldOf "entry" pair.1.summary, fieldOf "class" pair.2.summary]

instance : Report Flow.SinkFlow where
  report flow := (summarized flow flow.summary).put [("paths", report flow.paths)]

instance : Report Flow.DataFlow := ⟨fun flow => summarized flow flow.summary⟩

/-- What is told about a package that was found. -/
def Apk.Package.report (package : Package) : Study Value := do
  let contents ← Package.contents
  return .list [
    contents.dexCount, contents.hasManifest, contents.hasResources, contents.dexFiles,
    toValue (← package.summary)]

instance : Report Country where
  report country := (summarized country country.summary).put [fieldOf "str" country.text]

/-- The report on a country that is described by any values. -/
def Country.describe (code name currency : Value) : Value :=
  let described : Country := { code := code.text, name := name.text, currency := currency.text }
  (report described).put [("code", code), ("name", name), ("currency", currency)]

/-- What is told about a group of permissions. -/
def Store.Permission.report (permission : Permission) : Except Misuse Value := do
  return .record [fieldOf "len" (← permission.size)]

/-- What is told about an app. -/
def Store.AppInfo.report (app : AppInfo) : Except Misuse Value := do
  return .record [
    fieldOf "is_free" app.isFree, fieldOf "is_highly_rated" (← app.isHighlyRated),
    fieldOf "rating_category" (← app.ratingCategory), fieldOf "has_permissions" app.hasPermissions,
    fieldOf "groups" app.permissionGroups, fieldOf "all_permissions" (← app.allPermissions)]

/-- What is told about a review. -/
def Store.Review.report (review : Review) : Except Misuse Value := do
  return .record [
    fieldOf "is_positive" (← review.isPositive), fieldOf "has_reply" review.hasReply]

/-- What is told about a search result. -/
def Store.SearchResult.report (result : SearchResult) : Except Misuse Value := do
  return .record [
    fieldOf "is_free" result.isFree, fieldOf "str" (← result.text),
    fieldOf "repr" (← result.summary)]

/-- What is told about a word of a vocabulary. -/
def Store.Vocabulary.report (vocabulary : Vocabulary) (found : Found) : Value :=
  let text := vocabulary.textOf found.term
  .record [
    fieldOf "name" found.term.name, fieldOf "value" found.term.value, fieldOf "str" text,
    fieldOf "format" text, fieldOf "equals_value" true, fieldOf "index" found.index,
    fieldOf "size" vocabulary.terms.length]

/-- What is told about a pool of references, and about texts that may be in it. -/
def Dex.ReferencePool.report (pool : ReferencePool) (queries : List String) : Value :=
  .record [
    fieldOf "dict" pool, fieldOf "repr" pool.summary,
    fieldOf "contains" (queries.map fun query =>
      [pool.contains query, pool.containsString query, pool.containsType query,
        pool.containsField query, pool.containsMethod query])]

instance : Report Resource where
  report resource := .record [
    fieldOf "is_resource_id" (Resource.isResourceId resource.id),
    fieldOf "type_id" (Resource.typeOf resource.id),
    fieldOf "entry_id" (Resource.entryOf resource.id),
    fieldOf "repr" resource.summary, fieldOf "is_string" resource.isString,
    fieldOf "is_boolean" resource.isBoolean]

instance : Report TextPool where
  report pool := .record [
    fieldOf "cached_strings" pool.size, fieldOf "cache_enabled" pool.switch]

end AppSurvey
