import AppSurvey.Text.Search

/-!
# App manifests

The manifest of an app names its components and says, with intent filters, which requests an activity
answers. A filter that answers views of links from elsewhere is a deeplink.
-/

namespace AppSurvey.Apk

open Text

/-- Which links a filter answers. -/
structure LinkPattern where
  scheme : Option String := none
  host : Option String := none
  path : Option String := none
  pathStart : Option String := none
  pathPattern : Option String := none
  deriving DecidableEq

namespace LinkPattern

/-- One part of a summary, if the value is there. -/
def part (label : String) (value : Option String) : List String :=
  value.toList.map fun text => s!"{label}='{text}'"

def summary (link : LinkPattern) : String :=
  let parts := part "scheme" link.scheme ++ part "host" link.host ++ part "path" link.path
  s!"IntentFilterData({commaList parts})"

/-- The path of the links: an exact path, else the beginning of one, else a pattern. -/
def pathText (link : LinkPattern) : String :=
  match link.path, link.pathStart, link.pathPattern with
  | some path, _, _ => path
  | none, some start, _ => start ++ "*"
  | none, none, some pattern => pattern
  | none, none, none => ""

/-- The links in one text. -/
def text (link : LinkPattern) : String :=
  (link.scheme.map (· ++ "://")).getD "" ++ link.host.getD "" ++ link.pathText

end LinkPattern

/-- The requests that an activity answers. -/
structure IntentFilter where
  activity : String
  actions : List String := []
  categories : List String := []
  links : List LinkPattern := []
  deriving DecidableEq

namespace IntentFilter

/-- Does the filter answer views of links from elsewhere? -/
def isDeeplink (filter : IntentFilter) : Bool :=
  filter.actions.any (fun action => includes action "VIEW")
    && filter.categories.any (fun category => includesAny category ["BROWSABLE", "DEFAULT"])
    && !filter.links.isEmpty

def summary (filter : IntentFilter) : String :=
  s!"ActivityIntentFilter(activity='{filter.activity}', actions={filter.actions.length}, "
    ++ s!"data={filter.links.length})"

end IntentFilter

/-- What an app declares about itself. -/
structure Manifest where
  package : String
  versionCode : Option String := none
  versionName : Option String := none
  minSdk : Option String := none
  targetSdk : Option String := none
  permissions : List String := []
  activities : List String := []
  services : List String := []
  receivers : List String := []
  providers : List String := []
  label : Option String := none
  filters : List IntentFilter := []

namespace Manifest

/-- The filters that are deeplinks. -/
def deeplinks (manifest : Manifest) : List IntentFilter :=
  manifest.filters.filter IntentFilter.isDeeplink

/-- The filters of one activity. -/
def filtersOf (manifest : Manifest) (activity : String) : List IntentFilter :=
  manifest.filters.filter fun filter => filter.activity == activity

def summary (manifest : Manifest) : String :=
  let version := manifest.versionName.getD "unknown"
  s!"RustManifestInfo(package='{manifest.package}', version='{version}', "
    ++ s!"activities={manifest.activities.length}, services={manifest.services.length}, "
    ++ s!"receivers={manifest.receivers.length}, providers={manifest.providers.length})"

end Manifest

end AppSurvey.Apk
