import AppSurvey.Store.Request
import AppSurvey.Value.Use

/-!
# Building requests

Many requests repeat the same few texts. A builder makes the requests for every combination of its
arguments, one after the other, and takes each text from a pool in which it is kept once. What it is
given is not checked before it is used, and a pool keeps what was put there before a failure.
-/

namespace AppSurvey.Store

/-- Texts that are kept once, each under itself. The switch is what was given for it. -/
structure TextPool where
  switch : Value := .bool true
  kept : List (String × String) := []

/-- Work with a pool of texts, which stays as it is when the work fails. -/
abbrev Pooling (α : Type) : Type := ExceptT Misuse (StateM TextPool) α

namespace TextPool

/-- Are texts kept? -/
def enabled (pool : TextPool) : Bool := pool.switch.isTruthy

/-- How many texts the pool keeps. -/
def size (pool : TextPool) : Nat := pool.kept.length

/-- The text of the pool that equals a text, which is put there if it is not. A pool that is switched
off keeps nothing. -/
def keep (text : String) (pool : TextPool) : String × TextPool :=
  if pool.enabled then
    match pool.kept.lookup text with
    | some same => (same, pool)
    | none => (text, { pool with kept := pool.kept ++ [(text, text)] })
  else (text, pool)

/-- The value of the pool that equals a value. Only texts can be kept. -/
def share (value : Value) : Pooling Value := do
  match value with
  | .string text => return .string (← modifyGet (keep text))
  | other =>
      if (← get).enabled then
        other.requireKey
        other.requireText
      return other

/-- A value that is chosen, unless it says nothing. -/
def shareOr (given otherwise : Value) : Pooling Value :=
  if given.isTruthy then share given else return otherwise

/-- The first requests of a sequence, as many as wanted. What the requests have in common is prepared
with the first one, so nothing happens where none is wanted. There is one request for every pair of
items; the second item changes first. -/
def build {π α : Type} (wanted : Option Nat) (prepare : Pooling π) (firsts seconds : Value)
    (make : π → Value × Value → Pooling α) : Pooling (List α) :=
  if wanted = some 0 then return []
  else do
    let common ← prepare
    let requests := pairs (← firsts.each) (← seconds.each)
    match wanted with
    | some n => (requests.take n).mapM (make common)
    | none => requests.mapM (make common)

end TextPool

/-- What requests have where nothing else is chosen. -/
structure RequestBuilder where
  collection : Value := .string defaultCollection
  lang : Value := .string defaultLang
  num : Value := .ofInt defaultNum

namespace RequestBuilder

open TextPool

/-- A builder. Where texts are kept once, its own must be texts. -/
def make (shares : Bool) (collection lang num : Value) : Except Misuse RequestBuilder := do
  if shares then
    collection.requireText
    lang.requireText
  return { collection, lang, num }

/-- Requests for lists: every category for the first country, then for the next. -/
def lists (builder : RequestBuilder) (countries categories collection lang num : Value)
    (wanted : Option Nat) : Pooling (List ListRequest) :=
  build wanted
    (do
      let collection ← shareOr collection builder.collection
      let lang ← shareOr lang builder.lang
      return (collection, lang))
    countries categories
    fun (collection, lang) (country, category) => do
      let category ← shareOr category .null
      let country ← share country
      return {
        category, collection, lang, country
        num := if num.isNull then builder.num else num }

/-- Requests for apps: every country for the first app, then for the next. -/
def apps (builder : RequestBuilder) (appIds countries lang : Value) (wanted : Option Nat) :
    Pooling (List AppRequest) :=
  build wanted (shareOr lang builder.lang) appIds countries fun lang (appId, country) => do
    let appId ← share appId
    let country ← share country
    return { appId, lang, country }

/-- Requests for searches: every country for the first query, then for the next. -/
def searches (builder : RequestBuilder) (queries countries lang : Value) (wanted : Option Nat) :
    Pooling (List SearchRequest) :=
  build wanted (shareOr lang builder.lang) queries countries fun lang (query, country) => do
    let query ← share query
    let country ← share country
    return { query, lang, country }

/-- Requests for reviews: every country for the first app, then for the next. -/
def reviews (builder : RequestBuilder) (appIds countries lang sort token : Value)
    (wanted : Option Nat) : Pooling (List ReviewRequest) :=
  build wanted
    (do
      let lang ← shareOr lang builder.lang
      let token ← shareOr token .null
      return (lang, token))
    appIds countries
    fun (lang, token) (appId, country) => do
      let appId ← share appId
      let country ← share country
      return { appId, lang, country, sort, token }

end RequestBuilder

/-- The requests for some lists in some countries. -/
def listMatrix (countries categories collection num : Value) : Except Misuse (List ListRequest) := do
  let builder ← RequestBuilder.make true collection (.string defaultLang) num
  let categories ← categories.each
  (builder.lists countries (.list categories) .null .null .null none |>.run.run {}).1

/-- The requests for some apps in some countries. -/
def appMatrix (appIds countries lang : Value) : Except Misuse (List AppRequest) := do
  let builder ← RequestBuilder.make true (.string defaultCollection) lang (.ofInt defaultNum)
  (builder.apps appIds countries .null none |>.run.run {}).1

end AppSurvey.Store
