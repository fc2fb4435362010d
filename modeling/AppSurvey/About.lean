/-!
# About the program

What the program says about itself.
-/

namespace AppSurvey.About

def version : String := "0.4.0"

/-- The names under which the parts of the program are offered. -/
def offered : List String :=
  ["__version__", "__author__", "__license__", "AsyncClient", "RustClient", "quick_get_app",
    "ApkAnalyzer", "ApkDownloader", "AppInfo", "Review", "SearchResult", "Permission", "Category",
    "Collection", "Age", "Country", "get_countries", "get_country_by_code",
    "get_unique_countries", "get_representative_country", "is_unique_region",
    "get_countries_in_region", "UNIQUE_REGION_CODES", "REGION_MAPPING", "PlayfastError",
    "AppNotFoundError", "RateLimitError", "ParseError", "NetworkError", "ValidationError",
    "TimeoutError", "fetch_apps", "fetch_category_lists", "search_apps", "fetch_reviews",
    "fetch_top_apps", "fetch_multi_country_apps", "BatchFetcher", "BatchRequestBuilder",
    "build_multi_country_requests", "build_app_country_matrix", "core"]

/-- What is printed when the program is started. -/
def banner : List String :=
  [s!"Playfast v{version} - Lightning-fast Google Play Store scraper", "Two client options:",
    "  - RustClient: Maximum performance (Rust HTTP + parsing)",
    "  - AsyncClient: Easy async (Python HTTP + Rust parsing)",
    "See documentation at: https://github.com/mixL1nk/playfast"]

end AppSurvey.About
