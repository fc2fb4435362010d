/-!
# The form of a reviews request

What the store is asked for the reviews of an app, before percent encoding.
-/

namespace AppSurvey.Store

/-- How the form begins. -/
def reviewsOpening : String := "f.req=[[[\"oCPfdb\",\"[null,[2,"

/-- What is asked of the reviews besides their order and number. -/
def reviewsDetails : String := ",[null,null,null,null,null,null,null,null,null]],[\\\""

/-- How the form ends. -/
def reviewsEnd : String := "\\\",7]]\",null,\"generic\"]]]"

/-- The request for a page of reviews. -/
def reviewsForm : String :=
  String.join [
    reviewsOpening, "$\x7bsort\x7d", ",[", "$\x7bnum\x7d", "],", "$\x7btoken\x7d", reviewsDetails,
    "$\x7bappId\x7d", reviewsEnd]

end AppSurvey.Store
