import Std.Data.HashMap
import AppSurvey.Apk.Manifest
import AppSurvey.Dex.Outline

/-!
# Entry points

The components that a manifest declares are where an app can be entered. A survey links them to the
classes found in the app. Where several classes have one name, the last one counts.
-/

namespace AppSurvey.Apk

open Dex

/-- The kinds of component. -/
inductive ComponentType where
  | activity
  | service
  | broadcastReceiver
  | contentProvider
  deriving DecidableEq

def ComponentType.name : ComponentType → String
  | .activity => "Activity"
  | .service => "Service"
  | .broadcastReceiver => "BroadcastReceiver"
  | .contentProvider => "ContentProvider"

/-- A component through which an app can be entered. -/
structure EntryPoint where
  type : ComponentType
  className : String
  filters : List IntentFilter
  isDeeplink : Bool
  classFound : Bool
  deriving DecidableEq

namespace EntryPoint

/-- The links that the component answers, each with a text. -/
def deeplinkPatterns (entry : EntryPoint) : List String :=
  (entry.filters.flatMap fun filter => filter.links.map LinkPattern.text).filter
    fun text => !text.isEmpty

/-- The actions that the component answers, in order. -/
def actions (entry : EntryPoint) : List String :=
  entry.filters.flatMap IntentFilter.actions

/-- Does the component answer an action? -/
def handles (entry : EntryPoint) (action : String) : Bool :=
  entry.filters.any fun filter => filter.actions.contains action

def summary (entry : EntryPoint) : String :=
  s!"EntryPoint({entry.type.name}, {entry.className}, deeplink={entry.isDeeplink}, "
    ++ s!"found={entry.classFound})"

end EntryPoint

/-- A manifest together with the classes of the app by name. -/
structure Survey where
  manifest : Manifest
  classes : Std.HashMap String ClassOutline

namespace Survey

/-- The survey of a manifest and a list of classes. -/
def make (manifest : Manifest) (outlines : List ClassOutline) : Survey :=
  { manifest
    classes := outlines.foldl (fun known outline => known.insert outline.className outline) ∅ }

/-- The class of a name. -/
def class? (survey : Survey) (name : String) : Option ClassOutline :=
  survey.classes[name]?

/-- Is there a class of the name? -/
def hasClass (survey : Survey) (name : String) : Bool :=
  survey.classes.contains name

/-- The entry point of an activity, with its filters. -/
def activityEntry (survey : Survey) (name : String) : EntryPoint :=
  let filters := survey.manifest.filtersOf name
  { type := .activity
    className := name
    filters
    isDeeplink := filters.any IntentFilter.isDeeplink
    classFound := survey.hasClass name }

/-- The entry point of a component that has no filters of its own. -/
def plainEntry (survey : Survey) (type : ComponentType) (name : String) : EntryPoint :=
  { type
    className := name
    filters := []
    isDeeplink := false
    classFound := survey.hasClass name }

/-- The entry points: activities, then services, then receivers. -/
def entryPoints (survey : Survey) : List EntryPoint :=
  survey.manifest.activities.map survey.activityEntry
    ++ survey.manifest.services.map (survey.plainEntry .service)
    ++ survey.manifest.receivers.map (survey.plainEntry .broadcastReceiver)

/-- The entry points that answer links from elsewhere. -/
def deeplinkHandlers (survey : Survey) : List EntryPoint :=
  survey.entryPoints.filter EntryPoint.isDeeplink

/-- The entry points whose class was found. -/
def foundEntryPoints (survey : Survey) : List EntryPoint :=
  survey.entryPoints.filter EntryPoint.classFound

/-- The first entry point of a name, with its class. -/
def entryWithClass? (survey : Survey) (name : String) : Option (EntryPoint × ClassOutline) := do
  let entry ← survey.entryPoints.find? fun entry => entry.className == name
  let outline ← survey.class? name
  return (entry, outline)

/-- The entry points whose class was found, each with its class. -/
def analyzedEntryPoints (survey : Survey) : List (EntryPoint × ClassOutline) :=
  survey.entryPoints.filterMap fun entry =>
    (survey.class? entry.className).map fun outline => (entry, outline)

/-- The counts of the survey in one line. -/
def stats (survey : Survey) : String :=
  let all := survey.entryPoints
  let found := all.countP EntryPoint.classFound
  let deeplinks := all.countP EntryPoint.isDeeplink
  s!"Total: {all.length}, Found in DEX: {found}, Deeplink handlers: {deeplinks}"

end Survey

end AppSurvey.Apk
