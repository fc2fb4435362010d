import AppSurvey.Apk.Download
import AppSurvey.Apk.Package
import AppSurvey.Record.Basic

/-!
# Records of the study and the download of packages
-/

namespace AppSurvey.Apk

instance : OfValue MethodQuery where
  ofValue value :=
    { name := value.field "method_name"
      paramCount := value.field "param_count"
      returnType := value.field "return_type" }

instance : ToValue MethodQuery where
  toValue query := .record [
    ("method_name", toValue query.name),
    ("param_count", toValue query.paramCount),
    ("return_type", toValue query.returnType)]

instance : OfValue Search where
  ofValue value :=
    { limit := value.field "limit"
      parallel := value.given "parallel" (.bool true) }

instance : ToValue Search where
  toValue search := .record [
    ("limit", toValue search.limit), ("parallel", toValue search.parallel)]

instance : ToValue Statistics where
  toValue statistics := .record [
    ("package_name", statistics.packageName),
    ("version_name", statistics.versionName),
    ("version_code", statistics.versionCode),
    ("min_sdk", statistics.minSdk),
    ("target_sdk", statistics.targetSdk),
    ("dex_count", statistics.dexCount),
    ("class_count", toValue statistics.classCount),
    ("method_count", toValue statistics.methodCount),
    ("field_count", toValue statistics.fieldCount),
    ("activity_count", toValue statistics.activityCount),
    ("service_count", toValue statistics.serviceCount),
    ("receiver_count", toValue statistics.receiverCount),
    ("provider_count", toValue statistics.providerCount),
    ("permission_count", toValue statistics.permissionCount)]

instance : ToValue WebViewMethod where
  toValue found := .record [
    ("class", found.owner.field "class_name"),
    ("method", found.method.field "name"),
    ("parameters", found.method.field "parameters"),
    ("return_type", found.method.field "return_type")]

instance : ToValue WebViewUsage where
  toValue usage := .record [
    ("class_count", toValue usage.classes.length),
    ("classes", toValue usage.classes),
    ("method_count", toValue usage.methods.length),
    ("methods", toValue usage.methods)]

instance : ToValue SurveyResults where
  toValue results := .record [
    ("analyzer", results.begun),
    ("entry_points", results.entryPoints),
    ("deeplink_handlers", results.deeplinkHandlers),
    ("stats", results.stats)]

instance : OfValue Account where
  ofValue value :=
    let base : Account := { email := value.field "email" }
    { base with
      oauthToken := value.field "oauth_token"
      aasToken := value.field "aas_token"
      device := value.given "device" base.device
      locale := value.given "locale" base.locale
      timezone := value.given "timezone" base.timezone }

instance : ToValue Account where
  toValue account := .record [
    ("email", toValue account.email),
    ("oauth_token", toValue account.oauthToken),
    ("aas_token", toValue account.aasToken),
    ("device", toValue account.device),
    ("locale", toValue account.locale),
    ("timezone", toValue account.timezone)]

/-- The answer to a question, from the record that the service gives and the progress it tells. -/
def ServiceQuestion.answer : (question : ServiceQuestion) → Except String Value →
    List (Value × Value) → Asking.Answer question
  | .deliver _ _, outcome, progress => ({ progress, outcome } : Delivery)
  | .connect _, told, _ | .restore _, told, _ | .login _, told, _ | .saveCredentials _ _, told, _
  | .token _, told, _ | .details _ _, told, _ => told

end AppSurvey.Apk
