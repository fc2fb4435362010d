import AppSurvey.Store.Exchange
import AppSurvey.Store.RequestBuilder
import AppSurvey.Value.Filing

/-!
# Fetching many pages

Requests for every combination of the arguments go to the reader in one question, and its results
come back in the order of the requests.
-/

namespace AppSurvey.Store.Fetch

variable {σ : Type} (schema : Schema)

/-- Apps in some countries. -/
def apps (appIds countries lang : Value) : Ask σ (List AppInfo) := do
  let requests := (← Ask.use (appIds.pairsWith countries)).map fun (appId, country) =>
    { appId, lang, country : AppRequest }
  let told ← Talk.accept AskError.reader (← Talk.ask (Question.apps requests))
  Ask.use (told.each >>= List.mapM (AppInfo.ofTold schema))

/-- Lists of categories in some countries. -/
def lists (countries categories collection lang num : Value) :
    Ask σ (List (List SearchResult)) := do
  let requests := (← Ask.use (countries.pairsWith categories)).map fun (country, category) =>
    { category, collection, lang, country, num : ListRequest }
  let told ← Talk.accept AskError.reader (← Talk.ask (Question.lists requests))
  Ask.use (told.each >>= List.mapM (SearchResult.allOfTold schema))

/-- Searches in some countries. -/
def searches (queries countries lang : Value) : Ask σ (List (List SearchResult)) := do
  let requests := (← Ask.use (queries.pairsWith countries)).map fun (query, country) =>
    { query, lang, country : SearchRequest }
  let told ← Talk.accept AskError.reader (← Talk.ask (Question.searches requests))
  Ask.use (told.each >>= List.mapM (SearchResult.allOfTold schema))

/-- The reviews of a told page, with the token of the next page. -/
def readPage (told : Value) : Except Misuse (List Review × Value) := do
  let (page, token) ← told.pair
  return (← page.each >>= Review.allOfTold schema, token)

/-- First pages of reviews in some countries, each with the token of the next page. -/
def reviews (appIds countries lang sort : Value) : Ask σ (List (List Review × Value)) := do
  let requests := (← Ask.use (appIds.pairsWith countries)).map fun (appId, country) =>
    { appId, lang, country, sort, token := .null : ReviewRequest }
  let told ← Talk.accept AskError.reader (← Talk.ask (Question.reviewPages requests))
  Ask.use (told.each >>= List.mapM (readPage schema))

/-- Files the first results under the categories, and gives back the results that are left. Of two
results under one category the later one counts. -/
def fileRow {α : Type} (row : Keyed Value α) :
    List Value → List α → Except AskError (Keyed Value α × List α)
  | [], results => .ok (row, results)
  | _ :: _, [] => .error .missingResult
  | category :: categories, result :: results => do
      let row ← (row.file category result).mapError AskError.misuse
      fileRow row categories results

/-- Files results under countries and categories. Of two rows under one country the later one
counts. -/
def fileRows {α : Type} (categories : List Value) (rows : Keyed Value (Keyed Value α)) :
    List Value → List α → Except AskError (Keyed Value (Keyed Value α))
  | [], _ => .ok rows
  | country :: countries, results => do
      country.requireKey.mapError AskError.misuse
      let (row, rest) ← fileRow [] categories results
      fileRows categories (rows.set country row) countries rest

/-- The lists of some categories, by country and category. -/
def topApps (countries categories collection lang num : Value) :
    Ask σ (Keyed Value (Keyed Value (List SearchResult))) := do
  let wanted ← Ask.use categories.each
  let results ← lists schema countries (.list wanted) collection lang num
  let rows ← Ask.use countries.each
  Talk.accept id (fileRows wanted [] rows results)

/-- One app, by country. -/
def appByCountry (appId countries lang : Value) : Ask σ (Keyed Value AppInfo) := do
  let results ← apps schema (.list [appId]) countries lang
  Ask.use (Keyed.fileAll ((← Ask.use countries.each).zip results))

end Fetch

/-- Fetches with choices of its own where none are made. It has a builder with the same choices and
its pool of texts. -/
structure Fetcher where
  lang : Value := .string defaultLang
  num : Value := .ofInt defaultNum
  collection : Value := .string defaultCollection

namespace Fetcher

variable {σ : Type}

/-- The builder with the same choices. -/
def builder (fetcher : Fetcher) : RequestBuilder :=
  { collection := fetcher.collection, lang := fetcher.lang, num := fetcher.num }

/-- A fetcher. Its builder keeps texts once, so its own must be texts. -/
def make (lang num collection : Value) : Except Misuse Fetcher := do
  let _ ← RequestBuilder.make true collection lang num
  return { lang, num, collection }

/-- The pool of the builder, which fetching does not use. -/
def pool (_ : Fetcher) : TextPool := {}

def apps (fetcher : Fetcher) (schema : Schema) (appIds countries lang : Value) : Ask σ (List AppInfo) :=
  Fetch.apps schema appIds countries (choose lang fetcher.lang)

def lists (fetcher : Fetcher) (schema : Schema)
    (countries categories collection num lang : Value) : Ask σ (List (List SearchResult)) :=
  Fetch.lists schema countries categories (choose collection fetcher.collection)
    (choose lang fetcher.lang) (choose num fetcher.num)

def searches (fetcher : Fetcher) (schema : Schema) (queries countries lang : Value) :
    Ask σ (List (List SearchResult)) :=
  Fetch.searches schema queries countries (choose lang fetcher.lang)

end Fetcher

end AppSurvey.Store
