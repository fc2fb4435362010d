import AppSurvey.File.Tree
import AppSurvey.Talk
import AppSurvey.Value.Use

/-!
# Downloading packages

A downloader gets packages from a service. It has to be logged in for that, by a login or by
credentials that were saved after one. What the service is asked for is passed on as it is given.
-/

namespace AppSurvey.Apk

/-- Who asks the service, and how the device is described. -/
structure Account where
  email : Value
  oauthToken : Value := .null
  aasToken : Value := .null
  device : Value := .string "px_9a"
  locale : Value := .string "en_US"
  timezone : Value := .string "America/New_York"

/-- Who is told of the progress of an order. -/
inductive Listener where
  | someone
  /-- What is given in place of someone. Nothing stands for nobody. -/
  | other (given : Value)

/-- A package that is wanted, the directory for it, and who is told of the progress. -/
structure Order where
  package : Value
  directory : String
  version : Value
  listener : Listener := .other .null

/-- What comes of an order: how far it got, each time in bytes of all bytes, and how it ended. -/
structure Delivery where
  progress : List (Value × Value) := []
  outcome : Except String Value

/-- What can be asked of the service. A connection is named by the record that the service gave for
it. -/
inductive ServiceQuestion where
  | connect (account : Account)
  | restore (credentials : String)
  | login (connection : Value)
  | saveCredentials (connection : Value) (path : String)
  | token (connection : Value)
  | deliver (connection : Value) (order : Order)
  | details (connection : Value) (package : Value)

/-- The answers. The service tells a value or fails with a message. -/
instance : Asking ServiceQuestion where
  Answer
    | .deliver _ _ => Delivery
    | _ => Except String Value

/-- How a downloader fails. -/
inductive DownloadError where
  /-- The service gave up. -/
  | service (message : String)
  | notLoggedIn
  /-- A path begins with the home of someone unknown. -/
  | noHome
  | file (fault : File.Fault)
  /-- What was told or given cannot be used. -/
  | misuse (fault : Misuse)

def DownloadError.message : DownloadError → String
  | .service message => message
  | .notLoggedIn => "Not logged in. Call login() first."
  | .noHome => "Could not determine home directory."
  | .file fault => fault.message
  | .misuse fault => fault.message

/-- The files, and what has happened with the service. -/
structure Desk where
  tree : File.Tree
  home : File.Path
  loggedIn : Bool := false
  /-- What was told of the progress of downloads. -/
  progress : List (Value × Value) := []

/-- Asking the service. -/
abbrev Service : Type → Type := Talk ServiceQuestion Desk DownloadError

namespace Service

/-- Uses what was told or given. -/
def use {α : Type} (result : Except Misuse α) : Service α :=
  Talk.accept DownloadError.misuse result

/-- Takes an answer of the service. -/
def told (answer : Except String Value) : Service Value :=
  Talk.accept DownloadError.service answer

end Service

/-- A downloader: whose it is, and its connection to the service. -/
structure Downloader where
  email : Value
  connection : Value

namespace Downloader

/-- Where packages go if nothing else is said. -/
def defaultDirectory : String := "/tmp/playfast_apks"

/-- The email of a downloader whose credentials do not say it. -/
def unknownEmail : String := "loaded_from_file"

/-- The email that a connection has. -/
def emailOf : Value → Value
  | .record fields => (fields.lookup "email").getD (.string unknownEmail)
  | _ => .string unknownEmail

/-- Notes that someone is logged in. -/
def noteLogin : Service Unit := Talk.change fun desk => { desk with loggedIn := true }

/-- A path with the home directory in it. -/
def expand (given : Value) : Service File.Path := do
  let path := File.Path.ofText (← Service.use given.pathText)
  match path.expandHome (← Talk.state).home with
  | .ok path => return path
  | .error .unknownName => throw DownloadError.noHome
  | .error .nullCharacter => throw (DownloadError.file ⟨.nullCharacter, path.text⟩)

/-- A downloader for an account. -/
def connect (account : Account) : Service Downloader := do
  let connection ← Service.told (← Talk.ask (ServiceQuestion.connect account))
  return { email := account.email, connection }

/-- A downloader with saved credentials. It is logged in. -/
def restore (credentials : Value) : Service Downloader := do
  let path ← expand credentials
  let connection ← Service.told (← Talk.ask (ServiceQuestion.restore path.text))
  noteLogin
  return { email := emailOf connection, connection }

variable (downloader : Downloader)

/-- Fails where the connection does not offer a service. -/
def require (service : String) : Service Unit :=
  Service.use (downloader.connection.requireService service)

/-- Logs in. -/
def login : Service Unit := do
  downloader.require "login"
  let _ ← Service.told (← Talk.ask (ServiceQuestion.login downloader.connection))
  noteLogin

/-- Saves the credentials. -/
def saveCredentials (path : Value) : Service Unit := do
  let path ← expand path
  downloader.require "save_credentials"
  let _ ← Service.told
    (← Talk.ask (ServiceQuestion.saveCredentials downloader.connection path.text))

/-- The token that replaces a login. -/
def token : Service Value := do
  downloader.require "get_aas_token"
  Service.told (← Talk.ask (ServiceQuestion.token downloader.connection))

def isLoggedIn : Service Bool := do return (← Talk.state).loggedIn

/-- Fails without a login. -/
def requireLogin : Service Unit := do
  unless ← isLoggedIn do throw DownloadError.notLoggedIn

/-- Makes a directory and those above it. -/
def makeDirectory (path : File.Path) : Service Unit := do
  let (tree, fault) := (← Talk.state).tree.makeDirectories path
  Talk.change fun desk => { desk with tree }
  if let some fault := fault then throw (DownloadError.file fault)

/-- Tells a listener how far an order got. -/
def tell (listener : Listener) (progress : List (Value × Value)) : Service Unit :=
  match listener with
  | .someone => Talk.change fun desk => { desk with progress := desk.progress ++ progress }
  | .other given =>
      if given.isNull || progress.isEmpty then pure ()
      else throw (DownloadError.misuse (.noCalling given.kind))

/-- Downloads a package into a directory, which is made if it is missing, and says where it is. -/
def download (package directory version : Value) (listener : Listener) : Service Value := do
  requireLogin
  let path ← expand directory
  makeDirectory path
  downloader.require "download_apk"
  let order := { package, directory := path.text, version, listener : Order }
  let delivery : Delivery ← Talk.ask (ServiceQuestion.deliver downloader.connection order)
  tell listener delivery.progress
  Service.told delivery.outcome

/-- What the service says about a package. -/
def details (package : Value) : Service Value := do
  requireLogin
  downloader.require "get_package_details"
  Service.told (← Talk.ask (ServiceQuestion.details downloader.connection package))

def summary : Service String := do
  let state := if ← isLoggedIn then "logged in" else "not logged in"
  return s!"ApkDownloader(email='{downloader.email.text}', {state})"

end Downloader

end AppSurvey.Apk
