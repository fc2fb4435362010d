import AppSurvey.Store.DirectClient
import AppSurvey.Store.Exchange

/-!
# The page client

A client that gets pages over the network itself and hands them to the reader. It works only while a
session is open.
-/

namespace AppSurvey.Store

/-- The settings of the client. -/
structure PageClient where
  timeout : Value := .ofInt defaultTimeout
  lang : Value := .string defaultLang
  headers : Value

namespace PageClient

/-- The headers of a client to which none are given. -/
def defaultHeaders (lang : Value) : Value :=
  .record [("User-Agent", .string ("Mozilla/5.0 (Windows NT 10.0; Win64; x64) "
      ++ "AppleWebKit/537.36 (KHTML, like Gecko) Chrome/131.0.0.0 Safari/537.36")),
    ("Accept-Language", .string s!"{lang.text},en-US;q=0.9,en;q=0.8"),
    ("Accept", .string "text/html,application/xhtml+xml,application/xml;q=0.9,*/*;q=0.8")]

/-- How many pages a client gets at the same time where no number is chosen. -/
def defaultConcurrency : Int := 10

/-- A client. Headers that say nothing count as none. The number of pages that it gets at the same time
must not be below zero. -/
def make (concurrency timeout lang headers : Value) : Except Misuse PageClient := do
  if ← concurrency.isNegative then throw .negativeLimit
  return { timeout, lang, headers := choose headers (defaultHeaders lang) }

/-- Where the store is. -/
def baseUrl : String := "https://play.google.com"

variable (client : PageClient)

/-- Opens a session. -/
def enter : Ask Bool Unit := do
  Talk.ask (Question.openSession client.timeout client.headers)
  Talk.change fun _ => true

/-- Closes the session and stays with it. -/
def leave : Ask Bool Unit := do
  if ← Talk.state then Talk.ask Question.closeSession

/-- Closes the session and lets it go. -/
def close : Ask Bool Unit := do
  if ← Talk.state then
    Talk.ask Question.closeSession
    Talk.change fun _ => false

/-- Fails without a session. -/
def requireSession : Ask Bool Unit := do
  unless ← Talk.state do throw AskError.notOpen

/-- The seconds after which the store may be asked again. -/
def retryAfter (response : Response) : Ask Bool Int :=
  match response.headers with
  | .record fields =>
      match header? fields "Retry-After" with
      | none => pure StoreError.defaultRetryAfter
      | some given => Ask.use given.whole
  | other => throw (AskError.misuse (.noPart other.kind "get"))

/-- The failure of a message. -/
def failed (url : Value) : TransportFailure → AskError
  | .timeout => .store (.timeout (.string "HTTP request") client.timeout)
  | .client => .store (.network url)
  | .system message => .connection message

/-- The text of a response whose status is not that of a failure. -/
def textOf (url : Value) (response : Response) : Ask Bool Value := do
  if ← Ask.use (response.status.atLeast (.int 400)) then
    throw (AskError.store (.network url response.status))
  match response.body with
  | .ok text => return text
  | .error (.lost failure) => throw (client.failed url failure)
  | .error (.undecodable message) => throw (AskError.undecodable message)

/-- The body of a response. `missing` is what a page that does not exist means, if that is told
apart. -/
def body (url : Value) (missing : Option (Except Misuse StoreError))
    (outcome : Except TransportFailure Response) : Ask Bool Value :=
  match outcome with
  | .error failure => throw (client.failed url failure)
  | .ok response => do
      if response.status == .ofInt 429 then
        throw (AskError.store (.rateLimit (.ofInt (← retryAfter response))))
      else if response.status == .ofInt 404 then
        match missing with
        | some error => throw (AskError.store (← Ask.use error))
        | none => client.textOf url response
      else client.textOf url response

/-- The app that a page is about, as far as its parameters tell. -/
def appOf (params : Value) : Except Misuse Value :=
  match params with
  | .record fields => .ok ((fields.lookup "id").getD (.string "unknown"))
  | other => if other.isTruthy then .error (.noPart other.kind "get") else .ok (.string "unknown")

/-- Gets a page. -/
def page (url params : Value) : Ask Bool Value := do
  requireSession
  let outcome ← Talk.ask (Question.get url params)
  client.body url (some ((appOf params).map fun appId => .appNotFound appId)) outcome

/-- A place in the store. -/
def urlOf (place : String) : Value := .string (baseUrl ++ place)

/-- The failure to read what was got. -/
def unreadable (what : String) (message : String) : AskError :=
  .store (.parse (.string s!"Failed to {what}: {message}"))

variable (schema : Schema)

/-- An app. -/
def app (appId lang country : Value) : Ask Bool AppInfo := do
  let params := .record [("id", appId), ("hl", choose lang client.lang), ("gl", country)]
  let html ← client.page (urlOf "/store/apps/details") params
  let told ←
    Talk.accept (unreadable "parse app page") (← Talk.ask (Question.readAppPage html appId))
  Ask.use (AppInfo.ofTold schema told)

/-- Apps in some countries, each asked for on its own. No countries count as one, the default. -/
def appsByCountry (appIds countries lang : Value) (turns : List Nat := []) :
    Ask Bool (Keyed Value (List AppInfo)) :=
  collect (fun appId country => client.app schema appId lang country) appIds
    (choose countries (.list [.string defaultCountry])) turns

/-- What is still wanted after some reviews, where `none` is all. -/
def stillWanted (wanted : Option Nat) (got : Nat) : Option Nat := wanted.map (· - got)

/-- The reviews of a page and of those behind it, as many as wanted. A page is asked for only when one
of its reviews is wanted, and only wanted reviews are converted. After `horizon` pages without an end
it gives up. -/
def reviewsFrom (appId lang country sort maxPages : Value) :
    (horizon pages : Nat) → (token : Value) → (wanted : Option Nat) → Ask Bool (List Review)
  | 0, _, _, _ => throw AskError.endless
  | horizon + 1, pages, token, wanted => do
      if wanted = some 0 then return []
      else if ← Ask.use (pageLimitReached maxPages pages) then return []
      else
        let request :=
          { appId, lang := choose lang client.lang, country, sort, token : ReviewRequest }
        let told ←
          Talk.accept (unreadable "fetch reviews")
            (← Talk.ask (Question.reviews request client.timeout))
        let (page, next) ←
          Talk.accept (fun fault => unreadable "fetch reviews" fault.message) told.pair
        let raws ← Ask.use page.each
        let found ← Ask.use (Review.allOfTold schema (match wanted with
          | some n => raws.take n
          | none => raws))
        if next.isTruthy then
          let more ← reviewsFrom appId lang country sort maxPages horizon (pages + 1) next
            (stillWanted wanted found.length)
          return found ++ more
        else return found

/-- The reviews, of `maxPages` pages at most and as many as wanted. -/
def streamReviews (appId lang country sort maxPages : Value) (wanted : Option Nat)
    (horizon : Nat) : Ask Bool (List Review) :=
  client.reviewsFrom schema appId lang country sort maxPages horizon 0 .null wanted

/-- The first hits of a search. -/
def search (query lang country hits : Value) : Ask Bool (List SearchResult) := do
  let params := .record
    [("q", query), ("hl", choose lang client.lang), ("gl", country), ("c", .string "apps")]
  let html ← client.page (urlOf "/store/search") params
  let told ←
    Talk.accept (unreadable "parse search results") (← Talk.ask (Question.readSearchPage html))
  let found ← Ask.use (SearchResult.allOfTold schema told)
  Ask.use (hits.cut found)

/-- What a request for a list says. -/
def listParams (lang country : Value) : Value :=
  .record [("rpcids", .string "vyAe2"), ("source-path", .string "/store/apps"),
    ("f.sid", .string "-4178618388443751758"),
    ("bl", .string "boq_playuiserver_20220612.08_p0"), ("hl", lang), ("gl", country),
    ("authuser", .string "0"), ("soc-app", .string "121"), ("soc-platform", .string "1"),
    ("soc-device", .string "1"), ("_reqid", .string "82003"), ("rt", .string "c")]

/-- The headers of a client with those that a form has. -/
def formHeaders : Except Misuse Value :=
  match client.headers with
  | .record fields =>
      .ok (.record (Keyed.set "Content-Type"
        (.string "application/x-www-form-urlencoded;charset=UTF-8") fields))
  | other => .error (.noFields other.kind)

/-- The apps of a list, which the store is asked to cut off after `num`. -/
def list (collection category lang country num : Value) : Ask Bool (List SearchResult) := do
  requireSession
  let form ←
    Talk.accept AskError.reader (← Talk.ask (Question.listBody category collection num))
  let url := urlOf "/_/PlayStoreUi/data/batchexecute"
  let headers ← Ask.use client.formHeaders
  let outcome ← Talk.ask
    (Question.post url (listParams (choose lang client.lang) country) form headers)
  let text ← client.body url none outcome
  let told ←
    Talk.accept (unreadable "parse list response") (← Talk.ask (Question.readListAnswer text))
  Ask.use (SearchResult.allOfTold schema told)

end PageClient

end AppSurvey.Store
