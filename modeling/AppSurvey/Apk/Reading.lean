import AppSurvey.File.Tree
import AppSurvey.Talk
import AppSurvey.Value.Use

/-!
# Reading packages

Who studies a package has a reader of packages as partner. This module says what can be asked of the
reader and how a study can fail. What is asked for is passed on as it is given, and what the reader
tells is not checked before it is used.
-/

namespace AppSurvey.Apk

/-- Which classes the reader looks for. -/
structure ClassQuery where
  name : Value := .null
  packages : Value := .null
  excludePackages : Value := .null

/-- Which methods the reader looks for. -/
structure MethodQuery where
  name : Value := .null
  paramCount : Value := .null
  returnType : Value := .null

/-- How the reader looks: for how many at most, and with one worker or several. -/
structure Search where
  limit : Value := .null
  parallel : Value := .bool true

/-- What is in a package, as far as it is told. -/
structure Contents where
  dexCount : Value := .null
  hasManifest : Value := .null
  hasResources : Value := .null
  dexFiles : Value := .null

/-- The contents from what is told about them. -/
def Contents.ofTold (told : Value) : Except Misuse Contents :=
  (told.parts 4).map fun parts =>
    { dexCount := parts[0]?.getD .null
      hasManifest := parts[1]?.getD .null
      hasResources := parts[2]?.getD .null
      dexFiles := parts[3]?.getD .null }

/-- What a survey of the entry points tells. -/
inductive SurveyPart where
  | entryPoints
  | deeplinkHandlers
  | stats
  deriving DecidableEq

/-- Where flows end. -/
inductive Sink where
  | webView
  | file
  | network
  | sql
  | matching (patterns : Value)

/-- What an analysis of flows offers for a sink. -/
def Sink.service : Sink → String
  | .webView => "find_webview_flows"
  | .file => "find_file_flows"
  | .network => "find_network_flows"
  | .sql => "find_sql_flows"
  | .matching _ => "find_flows_to"

/-- What a survey of the entry points offers for a part. -/
def SurveyPart.service : SurveyPart → String
  | .entryPoints => "analyze"
  | .deeplinkHandlers => "get_deeplink_handlers"
  | .stats => "get_stats"

/-- The sink of a name. -/
def Sink.ofName? : Value → Option Sink
  | .string "webview" => some .webView
  | .string "file" => some .file
  | .string "network" => some .network
  | .string "sql" => some .sql
  | _ => none

/-- What can be asked of the reader. Surveys and flow analyses that it has begun are named by the
record that it gave for them. -/
inductive ReaderQuestion where
  | contents (path : String)
  | manifest (path : String)
  | classes (path : String) (parallel : Value)
  | findClasses (path : String) (query : ClassQuery) (search : Search)
  | findMethods (path : String) (classes : ClassQuery) (methods : MethodQuery) (search : Search)
  | beginSurvey (path : String)
  | survey (begun : Value) (part : SurveyPart)
  | beginFlows (path : String)
  | flows (begun : Value) (sink : Sink) (depth : Value)
  | allWebViewFlows (path : String) (depth : Value)

/-- The answers. The reader tells a value or fails with a message. -/
instance : Asking ReaderQuestion where
  Answer _ := Except String Value

/-- How a study fails. -/
inductive StudyError where
  /-- There is no such package. -/
  | missing (path : String)
  /-- The package cannot be looked for. -/
  | file (fault : File.Fault)
  /-- The reader gave up. -/
  | reader (message : String)
  /-- What was told or given cannot be used. -/
  | misuse (fault : Misuse)
  /-- No sink has the name. -/
  | unknownSink (name : String)

def StudyError.message : StudyError → String
  | .missing path => s!"APK file not found: {path}"
  | .file fault => fault.message
  | .reader message => message
  | .misuse fault => fault.message
  | .unknownSink name => s!"Unknown sink type: {name}"

/-- The results of a survey of the entry points. -/
structure SurveyResults where
  begun : Value
  entryPoints : Value
  deeplinkHandlers : Value
  stats : Value

/-- What a study remembers. A part that is nothing is not remembered. -/
structure Memory where
  contents : Contents := {}
  manifest : Value := .null
  classes : Value := .null
  survey : Option SurveyResults := none

/-- The manifest that is remembered, if there is one. -/
def Memory.manifest? (memory : Memory) : Option Value :=
  if memory.manifest.isNull then none else some memory.manifest

/-- The classes that are remembered, if there are any. -/
def Memory.classes? (memory : Memory) : Option Value :=
  if memory.classes.isNull then none else some memory.classes

/-- The study of a package. -/
abbrev Study : Type → Type := Talk ReaderQuestion Memory StudyError

/-- Does a piece of work unless its result is remembered, and remembers the result. -/
def Study.once {α : Type} (remembered : Memory → Option α) (remember : α → Memory → Memory)
    (work : Study α) : Study α := do
  match remembered (← Talk.state) with
  | some result => return result
  | none =>
      let result ← work
      Talk.change (remember result)
      return result

/-- Asks the reader. -/
def Study.ask (question : ReaderQuestion) : Study Value := do
  Talk.accept StudyError.reader (← Talk.ask question)

/-- Uses what was told or given. -/
def Study.use {α : Type} (result : Except Misuse α) : Study α :=
  Talk.accept StudyError.misuse result

end AppSurvey.Apk
