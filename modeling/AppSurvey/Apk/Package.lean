import AppSurvey.Apk.Reading
import AppSurvey.File.Tree
import AppSurvey.Keyed

/-!
# Packages

The study of one package: its manifest, its classes and the packages they belong to, its entry points
and the flows from them. The manifest, the classes and the entry points are read once. What the
reader tells is passed on as it is, and looked into only where something is counted or picked out.
-/

namespace AppSurvey.Apk

open Text

/-- A package that was found. -/
structure Package where
  path : File.Path

/-- The parts of a name, between its dots. -/
def segments (name : String) : List String := (name.toList.splitOn '.').map String.ofList

/-- The name of a package up to its second part. -/
def topLevel (package : String) : String :=
  match segments package with
  | first :: second :: _ => first ++ "." ++ second
  | [only] => only
  | [] => ""

/-- What the packages of an app begin with. -/
def ownStart (app : String) : String := String.intercalate "." ((segments app).take 2)

/-- The distinct names of packages in order, of the names that classes give. An empty name counts for
none. -/
def packagesOf (names : List String) : List String :=
  ((names.filter fun name => !name.isEmpty).eraseDups).mergeSort fun a b => decide (a ≤ b)

/-- Puts a package into the group of its name, which is a new one for the first of its packages. -/
def addToGroup (groups : Keyed String (List String)) (package : String) : Keyed String (List String) :=
  let top := topLevel package
  groups.set top ((groups.get? top).getD [] ++ [package])

/-- Names of packages under what they have in common. -/
def groupPackages (packages : List String) : Keyed String (List String) :=
  packages.foldl addToGroup []

/-- How the names of well-known libraries begin. -/
def libraryStarts : List String :=
  ["com.google", "com.facebook", "com.meta", "androidx", "android.support", "com.android",
    "kotlinx", "kotlin", "org.jetbrains", "com.squareup", "io.reactivex", "com.jakewharton",
    "org.chromium", "com.fasterxml", "com.github"]

/-- The number of packages of each library, without the app itself. -/
def librariesOf (app : String) (groups : Keyed String (List String)) : Keyed String Nat :=
  (groups.filter fun group => group.1 != ownStart app && startsWithAny group.1 libraryStarts).map
    fun group => (group.1, group.2.length)

/-- Packages that are no part of an app. -/
def systemPackages : List String := ["android", "androidx", "com.google", "kotlin", "kotlinx"]

/-- Does one of some parameters have to do with web views? The first that does ends the search. -/
def anyWebView : List Value → Except Misuse Bool
  | [] => .ok false
  | parameter :: rest => do
      if ← parameter.holds "WebView" then return true else anyWebView rest

/-- Does a method give or take a web view? -/
def usesWebView (method : Value) : Except Misuse Bool := do
  if ← (← method.part "return_type").holds "WebView" then return true
  else anyWebView (← (← method.part "parameters").each)

/-- A method that has to do with web views, with its class. -/
structure WebViewMethod where
  owner : Value
  method : Value

/-- The methods of classes that have to do with web views. -/
def webViewMethods (classes : List Value) : Except Misuse (List WebViewMethod) := do
  let found ← classes.mapM fun owner => do
    let methods ← (← owner.part "methods").each
    return (← methods.filterM usesWebView).map fun method => { owner, method : WebViewMethod }
  return found.flatten

/-- Counts of what is in a package, with what its manifest says. -/
structure Statistics where
  packageName : Value
  versionName : Value
  versionCode : Value
  minSdk : Value
  targetSdk : Value
  dexCount : Value
  classCount : Nat
  methodCount : Nat
  fieldCount : Nat
  activityCount : Nat
  serviceCount : Nat
  receiverCount : Nat
  providerCount : Nat
  permissionCount : Nat

/-- How many items of a name things have together. -/
def countParts (name : String) (things : List Value) : Except Misuse Nat := do
  let counts ← things.mapM fun thing => do (← thing.part name).count
  return counts.foldl (· + ·) 0

/-- How many classes there are, and how many methods and fields they have together. -/
structure ClassCounts where
  classes : Nat
  methods : Nat
  fields : Nat

/-- What can be counted in classes. -/
def ClassCounts.of (classes : Value) : Except Misuse ClassCounts := do
  let classes ← classes.each
  return {
    classes := classes.length
    methods := ← countParts "methods" classes
    fields := ← countParts "fields" classes }

/-- The statistics from the contents, what was counted and the manifest. -/
def Statistics.ofParts (contents : Contents) (counts : ClassCounts) (manifest : Value) :
    Except Misuse Statistics := do
  let sizeOf (name : String) : Except Misuse Nat := manifest.part name >>= Value.count
  return {
    packageName := ← manifest.part "package_name"
    versionName := ← manifest.part "version_name"
    versionCode := ← manifest.part "version_code"
    minSdk := ← manifest.part "min_sdk_version"
    targetSdk := ← manifest.part "target_sdk_version"
    dexCount := contents.dexCount
    classCount := counts.classes
    methodCount := counts.methods
    fieldCount := counts.fields
    activityCount := ← sizeOf "activities"
    serviceCount := ← sizeOf "services"
    receiverCount := ← sizeOf "receivers"
    providerCount := ← sizeOf "providers"
    permissionCount := ← sizeOf "permissions" }

/-- Where a package has to do with web views: classes by their names, and methods. -/
structure WebViewUsage where
  classes : List Value
  methods : List WebViewMethod

/-- The use of web views, from the classes that were found for it and all classes. -/
def WebViewUsage.ofParts (found classes : Value) : Except Misuse WebViewUsage := do
  let methods ← webViewMethods (← classes.each)
  let _ ← found.count
  return { classes := ← (← found.each).mapM fun owner => owner.part "class_name", methods }

/-- The name of the package of a class, unless it says nothing. -/
def packageOf (owner : Value) : Except Misuse (Option Value) := do
  let name ← owner.part "package_name"
  if name.isTruthy then
    name.requireKey
    return some name
  else return none

/-- The distinct names of packages in order, of the names that classes give. They are texts, or all of
them numbers. -/
def distinctNames (names : List Value) : Except Misuse (List Value) :=
  match Value.texts? names with
  | some texts => .ok ((packagesOf texts).map .string)
  | none => Value.ordered names.eraseDups

/-- The names of the packages of classes. -/
def packageNamesOf (classes : Value) : Except Misuse (List Value) := do
  let names ← (← classes.each).mapM packageOf
  distinctNames (names.filterMap id)

/-- The names of the packages of classes under what they have in common. -/
def packageGroupsOf (classes : Value) : Except Misuse (Keyed String (List String)) := do
  return groupPackages (← (← packageNamesOf classes).mapM fun name => name.asText "split")

/-- The libraries among groups of packages, from the manifest of the app. -/
def librariesBeside (manifest : Value) (groups : Keyed String (List String)) :
    Except Misuse (Keyed String Nat) := do
  let app ← manifest.part "package_name"
  return librariesOf (← app.asText "split") groups

namespace Package

variable (package : Package)

/-- All classes. -/
def classes (parallel : Value := .bool true) : Study Value :=
  Study.once Memory.classes? (fun classes memory => { memory with classes })
    (Study.ask (.classes package.path.text parallel))

/-- The manifest. -/
def manifest : Study Value :=
  Study.once Memory.manifest? (fun manifest memory => { memory with manifest })
    (Study.ask (.manifest package.path.text))

/-- Reads what is in the package. -/
def readContents : Study Unit := do
  let contents ← Study.use (Contents.ofTold (← Study.ask (.contents package.path.text)))
  Talk.change fun memory => { memory with contents }

/-- What was read of the package. -/
def contents : Study Contents := do return (← Talk.state).contents

/-- Finds a package and what is in it, and reads its classes if they are wanted. -/
def find (tree : File.Tree) (given : Value) (readClasses : Bool) : Study Package := do
  let path := File.Path.ofText (← Study.use given.pathText)
  unless ← Talk.accept StudyError.file (tree.look path) do throw (StudyError.missing path.text)
  let package := { path : Package }
  package.readContents
  if readClasses then let _ ← package.classes
  return package

/-- A list of one package, or none for an empty name. -/
def onlyPackage (name : Value) : Value := if name.isTruthy then .list [name] else .null

/-- The classes that are looked for. -/
def findClasses (name inPackage excludePackages : Value) (search : Search) : Study Value :=
  let query := { name, packages := onlyPackage inPackage, excludePackages : ClassQuery }
  Study.ask (.findClasses package.path.text query search)

/-- The methods that are looked for. -/
def findMethods (query : MethodQuery) (className inPackage : Value) (search : Search) :
    Study Value :=
  let classes := { name := className, packages := onlyPackage inPackage : ClassQuery }
  Study.ask (.findMethods package.path.text classes query search)

/-- The classes of the app itself. -/
def appClasses (limit : Value) : Study Value :=
  package.findClasses .null .null (.list (systemPackages.map .string)) { limit }

def statistics : Study Statistics := do
  let counts ← Study.use (ClassCounts.of (← package.classes))
  let manifest ← package.manifest
  Study.use (Statistics.ofParts (← contents) counts manifest)

/-- The names of the packages of all classes. -/
def packageNames : Study (List Value) := do
  Study.use (packageNamesOf (← package.classes))

/-- The names of the packages under what they have in common. -/
def packageGroups : Study (Keyed String (List String)) := do
  Study.use (packageGroupsOf (← package.classes))

/-- The libraries that the app brings along. -/
def libraries : Study (Keyed String Nat) := do
  let groups ← package.packageGroups
  Study.use (librariesBeside (← package.manifest) groups)

/-- Where web views are used. -/
def webViewUsage : Study WebViewUsage := do
  let found ← package.findClasses (.string "WebView") .null .null {}
  Study.use (WebViewUsage.ofParts found (← package.classes))

/-- Asks for a part of a survey that is begun. -/
def surveyPart (begun : Value) (part : SurveyPart) : Study Value := do
  Study.use (begun.requireService part.service)
  Study.ask (.survey begun part)

/-- Surveys the entry points of the package at a path. -/
def readSurvey (path : String) : Study SurveyResults := do
  let begun ← Study.ask (.beginSurvey path)
  let entryPoints ← surveyPart begun .entryPoints
  let deeplinkHandlers ← surveyPart begun .deeplinkHandlers
  let stats ← surveyPart begun .stats
  return { begun, entryPoints, deeplinkHandlers, stats }

/-- The entry points. They are remembered only if the reader tells all about them. -/
def survey : Study SurveyResults :=
  Study.once Memory.survey (fun survey memory => { memory with survey := some survey })
    (readSurvey package.path.text)

/-- The flows from entry points to a sink. -/
def flowsTo (sink : Sink) (depth : Value) : Study Value := do
  let begun ← Study.ask (.beginFlows package.path.text)
  Study.use (begun.requireService sink.service)
  Study.ask (.flows begun sink depth)

/-- The flows to web views, from the entry points alone or from everywhere. -/
def webViewFlows (depth : Value) (fromEntryPoints : Bool) : Study Value :=
  if fromEntryPoints then package.flowsTo .webView depth
  else Study.ask (.allWebViewFlows package.path.text depth)

/-- Is a flow one from a deeplink handler? -/
def isDeeplink (flow : Value) : Except Misuse Bool :=
  (flow.part "is_deeplink_handler").map Value.isTruthy

/-- The flows from deeplink handlers to the sink of a name. -/
def deeplinkFlows (sinkName depth : Value) : Study (List Value) := do
  match Sink.ofName? sinkName with
  | none => throw (StudyError.unknownSink sinkName.text)
  | some sink =>
      let flows ← package.flowsTo sink depth
      Study.use (flows.each >>= List.filterM isDeeplink)

def summary : Study String := do
  let dexCount := (← contents).dexCount
  return s!"ApkAnalyzer('{package.path.name}', dex_count={dexCount.text})"

/-- The package in a few lines, from its contents and its manifest. -/
def describe (contents : Contents) (manifest : Value) : Except Misuse String := do
  let sizeOf (name : String) : Except Misuse Nat := manifest.part name >>= Value.count
  let packageName ← manifest.part "package_name"
  let version ← manifest.part "version_name"
  let version := if version.isTruthy then version.text else "N/A"
  let activities ← sizeOf "activities"
  let services ← sizeOf "services"
  let permissions ← sizeOf "permissions"
  return String.intercalate "\n" [
    s!"APK: {package.path.name}", s!"Package: {packageName.text}", s!"Version: {version}",
    s!"DEX files: {contents.dexCount.text}", s!"Activities: {activities}",
    s!"Services: {services}", s!"Permissions: {permissions}"]

/-- The package in a few lines. -/
def text : Study String := do
  let manifest ← package.manifest
  Study.use (package.describe (← contents) manifest)

end Package

end AppSurvey.Apk
