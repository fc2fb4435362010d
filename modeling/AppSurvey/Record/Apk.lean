import AppSurvey.Apk.EntryPoint
import AppSurvey.Apk.Resource
import AppSurvey.Record.Dex

/-!
# Records of manifests and entry points
-/

namespace AppSurvey.Apk

instance : OfValue LinkPattern where
  ofValue value :=
    { scheme := value.get "scheme"
      host := value.get "host"
      path := value.get "path"
      pathStart := value.get "path_prefix"
      pathPattern := value.get "path_pattern" }

instance : OfValue IntentFilter where
  ofValue value :=
    { activity := value.get "activity"
      actions := value.get "actions"
      categories := value.get "categories"
      links := value.get "data" }

instance : OfValue Manifest where
  ofValue value :=
    { package := value.get "package_name"
      versionCode := value.get "version_code"
      versionName := value.get "version_name"
      minSdk := value.get "min_sdk_version"
      targetSdk := value.get "target_sdk_version"
      permissions := value.get "permissions"
      activities := value.get "activities"
      services := value.get "services"
      receivers := value.get "receivers"
      providers := value.get "providers"
      label := value.get "application_label"
      filters := value.get "intent_filters" }

instance : ToValue IntentFilter where
  toValue filter := .record [
    ("activity", toValue filter.activity),
    ("actions", toValue filter.actions),
    ("categories", toValue filter.categories),
    ("data", toValue (filter.links.map LinkPattern.summary)),
    ("is_deeplink", toValue filter.isDeeplink)]

instance : ToValue Manifest where
  toValue manifest := .record [
    ("package_name", toValue manifest.package),
    ("version_code", toValue manifest.versionCode),
    ("version_name", toValue manifest.versionName),
    ("min_sdk_version", toValue manifest.minSdk),
    ("target_sdk_version", toValue manifest.targetSdk),
    ("permissions", toValue manifest.permissions),
    ("activities", toValue manifest.activities),
    ("services", toValue manifest.services),
    ("receivers", toValue manifest.receivers),
    ("providers", toValue manifest.providers),
    ("application_label", toValue manifest.label)]

instance : ToValue EntryPoint where
  toValue entry := .record [
    ("component_type", toValue entry.type.name),
    ("class_name", toValue entry.className),
    ("intent_filters", toValue entry.filters),
    ("is_deeplink_handler", toValue entry.isDeeplink),
    ("class_found", toValue entry.classFound),
    ("deeplink_patterns", toValue entry.deeplinkPatterns),
    ("actions", toValue entry.actions)]

instance : OfValue Survey :=
  ⟨fun value => Survey.make (value.get "manifest") (value.get "classes")⟩

instance : OfValue Resource where
  ofValue value :=
    { id := Resource.word32 (value.get "id")
      typeName := value.get "type_name"
      name := value.get "name"
      valueType := value.get "value_type"
      value := value.get "value" }

end AppSurvey.Apk
