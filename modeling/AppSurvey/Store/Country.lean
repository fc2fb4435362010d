import AppSurvey.Store.CountryTable
import AppSurvey.Text.Case

/-!
# Countries

Countries by code, and the regions of countries that share one store. A code may be given in any
letter case.
-/

namespace AppSurvey.Store

open Text

namespace Country

def summary (country : Country) : String :=
  s!"Country(code='{country.code}', name='{country.name}', currency='{country.currency}')"

def text (country : Country) : String :=
  s!"{country.name} ({country.code}) - {country.currency}"

/-- The country whose store a small-letter code uses; one that shares no store uses its own. -/
def representativeOf (code : String) : String :=
  match sharedStores.find? fun shared => shared.2.contains code with
  | some shared => shared.1
  | none => code

/-- Does the country have a store of its own? -/
def isOwnStore (country : Country) : Bool :=
  representativeOf country.code == country.code

/-- The country of a code. -/
def ofCode? (code : String) : Option Country :=
  let wanted := lower code
  countries.find? fun country => country.code == wanted

/-- The code of the country whose store is used; an unknown code stands for itself. -/
def representative (code : String) : String :=
  representativeOf (lower code)

/-- The countries with a store of their own. -/
def withOwnStore : List Country :=
  countries.filter isOwnStore

/-- Is this the code of a country with a store of its own? -/
def isUniqueRegion (code : String) : Bool :=
  (ofCode? code).any isOwnStore

/-- The countries that use the store of a country. -/
def region (code : String) : List Country :=
  let wanted := lower code
  countries.filter fun country => representativeOf country.code == wanted

end Country

end AppSurvey.Store
