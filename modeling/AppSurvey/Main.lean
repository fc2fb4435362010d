import AppSurvey.About

/-!
# The command line
-/

/-- Prints what the program says about itself. -/
def main : IO Unit := AppSurvey.About.banner.forM fun line => IO.println line
