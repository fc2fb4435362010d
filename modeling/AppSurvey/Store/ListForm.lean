/-!
# The form of a list request

What the store is asked for the apps of a category: nested lists with the places to fill in marked by a
dollar sign and a name in braces. The form is written here before percent encoding.
-/

namespace AppSurvey.Store

/-- Numbers in a list. -/
def numberList (numbers : List Nat) : String :=
  "[" ++ String.intercalate "," (numbers.map toString) ++ "]"

/-- The numbers of the parts of a page. -/
def pageParts : List Nat :=
  [64, 1, 195, 71, 8, 72, 9, 10, 11, 139, 12, 16, 145, 148, 150, 151, 152, 27, 30, 31, 96, 32, 34, 163,
    100, 165, 104, 169, 108, 110, 113, 55, 56, 57, 122]

/-- The kinds of clusters that a page may show. -/
def clusterKinds : List Nat :=
  [1, 31, 104, 9, 8, 27, 12, 65, 110, 88, 11, 56, 55, 96, 10, 122, 72, 71, 64, 113, 139, 150, 169, 165,
    151, 163, 32, 16, 108, 100]

/-- The kinds of items in a cluster, each with the fields that are asked for. -/
def itemFields : List (Nat × List Nat) :=
  [(7, [1, 73, 96, 103, 97, 58, 50, 92, 52, 112, 69, 19, 31, 101, 123, 74, 49, 80, 38, 20, 10, 14, 79, 43,
      42, 139]),
    (9, [1, 7, 9, 24, 12, 31, 5, 15, 27, 8, 13, 10]), (17, [1, 7, 9, 25, 13, 31, 5, 41, 27, 8, 14, 10]),
    (10, [1, 7, 6, 9]), (1, [1, 5, 14, 38, 19, 29, 34, 4, 12, 11, 6, 30, 43, 40, 42, 16, 10, 7]),
    (4, [1, 3, 5, 4, 7, 6, 11, 19, 21, 17, 15, 12, 16, 20]), (3, [1, 5, 14, 4, 10, 17]),
    (2, [1, 5, 7, 4, 13, 16, 12, 18])]

/-- The fields that are asked for an item in a kind of cluster. -/
def clusterFields (item cluster : Nat) (fields : List Nat) : String :=
  "[" ++ numberList [item, cluster] ++ ",[" ++ numberList fields ++ "]]"

/-- The fields of all items in all kinds of clusters. -/
def allFields : String :=
  String.intercalate ","
    (itemFields.flatMap fun item => clusterKinds.map fun cluster => clusterFields item.1 cluster item.2)

/-- How the form begins. -/
def listOpening : String := "f.req=[[[\"vyAe2\",\"[[null,[[8,[20,"

/-- What the form says about the page and what is on it. -/
def listDetails : String :=
  String.join [
    "]],true,null,", numberList pageParts, ",[null,null,[[[true],null,[[null,[]]],null,null,null,null,",
    "[null,2],null,null,null,null,null,null,[1],null,null,null,null,null,null,null,[1]],[null,[[null,",
    "[]]]],[null,[[null,[]]],null,[true]],[null,[[null,[]]]],null,null,null,null,[[[null,[]]]],[[[null,",
    "[]]]]],[[", allFields, "]]],null,null,[[[1,2],[10,8,9],[],[]]]],[2,\\\""]

/-- How the form ends. -/
def listEnd : String :=
  "\\\"]]]\",null,\"generic\"]]]&at=AFSRYlx8XZfN8-O-IKASbNBDkB6T:1655531200971&"

/-- The request for the apps of a category. -/
def listForm : String :=
  String.join [
    listOpening, "$\x7bnum\x7d", listDetails, "$\x7bcollection\x7d", "\\\",\\\"", "$\x7bcategory\x7d",
    listEnd]

end AppSurvey.Store
