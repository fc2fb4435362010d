import AppSurvey.Value

/-!
# Requests

What is asked of the store: the page of an app, the hits of a search, the apps of a list and a page
of reviews, each in a language and for a country. A request is not checked: its parts are passed on
as they are given.
-/

namespace AppSurvey.Store

/-- The page of an app. -/
structure AppRequest where
  appId : Value
  lang : Value
  country : Value

/-- The hits of a search. -/
structure SearchRequest where
  query : Value
  lang : Value
  country : Value

/-- The apps of a list, of one category or of all. -/
structure ListRequest where
  category : Value
  collection : Value
  lang : Value
  country : Value
  num : Value

/-- A page of reviews: the first one, or the one that a token stands for. -/
structure ReviewRequest where
  appId : Value
  lang : Value
  country : Value
  sort : Value
  token : Value

/-- The language where none is chosen. -/
def defaultLang : String := "en"

/-- The country where none is chosen. -/
def defaultCountry : String := "us"

/-- The list where none is chosen. -/
def defaultCollection : String := "topselling_free"

/-- How many apps of a list are wanted where no number is chosen. -/
def defaultNum : Int := 100

/-- How many hits of a search are wanted where no number is chosen. -/
def defaultHits : Int := 30

/-- The order of reviews where none is chosen: newest first. -/
def defaultSort : Int := 1

/-- The seconds to wait for an answer where no time is chosen. -/
def defaultTimeout : Int := 30

/-- What is chosen, unless it says nothing. -/
def choose (given otherwise : Value) : Value := if given.isTruthy then given else otherwise

/-- Every pair of two lists; the second item changes first. -/
def pairs {α β : Type} (xs : List α) (ys : List β) : List (α × β) :=
  xs.flatMap fun x => ys.map fun y => (x, y)

end AppSurvey.Store
