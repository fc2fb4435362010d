import AppSurvey.Store.ListForm
import AppSurvey.Store.ReviewsForm
import AppSurvey.Text.Template

/-!
# Request bodies

The bodies of the requests for app lists and for reviews: a form with the values put in as they are.
-/

namespace AppSurvey.Store.RequestBody

open Text

/-- What is filled in for a list. -/
def listTemplate : String := percentEncode listForm

/-- The body of a request for the apps of a category, of all apps where none is given. -/
def list (category : Option String) (collection : String) (count : Nat) : String :=
  fillTemplate
    (fun
      | "num" => some (toString count)
      | "collection" => some collection
      | "category" => some (category.getD "APPLICATION")
      | _ => none)
    listTemplate

/-- A page token between escaped quotes, or that there is none. -/
def tokenText : Option String → String
  | some token => "\\\"" ++ token ++ "\\\""
  | none => "null"

/-- How many reviews a page has. -/
def pageSize : Nat := 40

/-- What is filled in for reviews. -/
def reviewsTemplate : String := percentEncode reviewsForm

/-- The body of a request for a page of reviews. -/
def reviews (appId : String) (sort : Nat) (token : Option String) (lang country : String) : String :=
  fillTemplate
    (fun
      | "appId" => some appId
      | "sort" => some (toString sort)
      | "num" => some (toString pageSize)
      | "token" => some (tokenText token)
      | "lang" => some lang
      | "country" => some country
      | _ => none)
    reviewsTemplate

end AppSurvey.Store.RequestBody
