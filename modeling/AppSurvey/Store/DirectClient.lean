import AppSurvey.Store.Exchange
import AppSurvey.Text.Case
import AppSurvey.Value.Filing

/-!
# The direct client

A client that leaves both getting a page and reading it to the reader.
-/

namespace AppSurvey.Store

/-- Files results under the countries they are for; a request that failed leaves nothing. -/
def byCountry (countries : List Value) (results : List (Value × Option AppInfo)) :
    Except Misuse (Keyed Value (List AppInfo)) := do
  let rows ← Keyed.fileAll (countries.map fun country => (country, []))
  return results.foldl
    (fun rows (country, result) => rows.update country (· ++ result.toList))
    rows

/-- Asks for every app in every country, all at the same time, and files the results under the
countries. The turns say in which order the requests end. -/
def collect {σ : Type} (ask : (appId country : Value) → Ask σ AppInfo)
    (appIds countries : Value) (turns : List Nat) : Ask σ (Keyed Value (List AppInfo)) := do
  let requests ← Ask.use (countries.pairsWith appIds)
  let results ← Talk.gather turns (requests.map fun (country, appId) => ask appId country)
  Ask.use (byCountry (← Ask.use countries.each) ((requests.map Prod.fst).zip results))

/-- The settings of the client. -/
structure DirectClient where
  timeout : Value := .ofInt defaultTimeout
  lang : Value := .string defaultLang

namespace DirectClient

variable {σ : Type} (client : DirectClient) (schema : Schema)

/-- An app. -/
def app (appId lang country : Value) : Ask σ AppInfo := do
  let request := { appId, lang := choose lang client.lang, country : AppRequest }
  let told ← Talk.accept AskError.reader (← Talk.ask (Question.app request client.timeout))
  Ask.use (AppInfo.ofTold schema told)

/-- A page of reviews, and the token of the next one. -/
def reviews (appId lang country sort token : Value) : Ask σ (List Review × Value) := do
  let request :=
    { appId, lang := choose lang client.lang, country, sort, token : ReviewRequest }
  let told ← Talk.accept AskError.reader (← Talk.ask (Question.reviews request client.timeout))
  let (page, next) ← Ask.use told.pair
  return (← Ask.use (page.each >>= Review.allOfTold schema), next)

/-- The reviews of a page and of those behind it. After `horizon` pages without an end it gives
up. -/
def reviewsFrom (appId lang country sort maxPages : Value) :
    (horizon pages : Nat) → (token : Value) → Ask σ (List Review)
  | 0, _, _ => throw AskError.endless
  | horizon + 1, pages, token => do
      if ← Ask.use (pageLimitReached maxPages pages) then return []
      else
        let (found, next) ← client.reviews schema appId lang country sort token
        if next.isTruthy then
          let more ← reviewsFrom appId lang country sort maxPages horizon (pages + 1) next
          return found ++ more
        else return found

/-- All reviews, of `maxPages` pages at most. -/
def allReviews (appId lang country sort maxPages : Value) (horizon : Nat) : Ask σ (List Review) :=
  client.reviewsFrom schema appId lang country sort maxPages horizon 0 .null

/-- The first hits of a search. -/
def search (query lang country hits : Value) : Ask σ (List SearchResult) := do
  let request := { query, lang := choose lang client.lang, country : SearchRequest }
  let told ← Talk.accept AskError.reader (← Talk.ask (Question.search request client.timeout))
  let found ← Ask.use (SearchResult.allOfTold schema told)
  Ask.use (hits.cut found)

/-- The first apps of a list. -/
def list (collection category lang country num : Value) : Ask σ (List SearchResult) := do
  let request :=
    { category, collection, lang := choose lang client.lang, country, num : ListRequest }
  let told ← Talk.accept AskError.reader (← Talk.ask (Question.list request client.timeout))
  let found ← Ask.use (SearchResult.allOfTold schema told)
  Ask.use (num.cut found)

/-- Plain names of lists. -/
def collectionNames : List (String × String) :=
  [("TOP_FREE", "topselling_free"), ("TOP_PAID", "topselling_paid"), ("TOP_GROSSING", "topgrossing"),
    ("TOP_NEW_FREE", "topselling_new_free"), ("TOP_NEW_PAID", "topselling_new_paid"),
    ("MOVERS_SHAKERS", "movers_shakers")]

/-- The list of a name, in any letter case; a name that is not known stands for itself in small
letters. -/
def collectionOf (name : String) : String :=
  (collectionNames.lookup (Text.upper name)).getD (Text.lower name)

/-- The first apps of a category, by the plain name of a list. -/
def category (category collection lang country num : Value) : Ask σ (List SearchResult) := do
  let name ← Ask.use (collection.asText "upper")
  client.list schema (.string (collectionOf name)) category lang country num

/-- Apps in some countries, each asked for on its own. -/
def appsByCountry (appIds countries lang : Value) (turns : List Nat := []) :
    Ask σ (Keyed Value (List AppInfo)) :=
  collect (fun appId country => client.app schema appId lang country) appIds
    (if countries.isNull then .list [.string defaultCountry] else countries) turns

end DirectClient

end AppSurvey.Store
