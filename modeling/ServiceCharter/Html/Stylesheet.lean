/-!
# The stylesheet of standalone pages

The stylesheet is kept line by line; every line ends in a line feed.
-/

namespace ServiceCharter.Html

/-- The lines of the stylesheet. -/
def stylesheetLines : List String :=
  [ "/* Baseline stylesheet for standalone carta pages */",
    ":root \x7b",
    "  --text-color: #1f2933;",
    "  --muted-color: #52606d;",
    "  --accent-color: #0b5cad;",
    "  --page-width: 46rem;",
    "\x7d",
    "",
    "body \x7b",
    "  margin: 0;",
    "  padding: 2rem 1rem;",
    "  color: var(--text-color);",
    "  background: #ffffff;",
    "  font-family: -apple-system, BlinkMacSystemFont, \"Segoe UI\", Roboto, " ++
      "Helvetica, Arial, sans-serif;",
    "  font-size: 1rem;",
    "  line-height: 1.6;",
    "\x7d",
    "",
    ".carta-document \x7b",
    "  max-width: var(--page-width);",
    "  margin: 0 auto;",
    "\x7d",
    "",
    ".carta-document h2 \x7b",
    "  margin: 2rem 0 0.75rem;",
    "  padding-bottom: 0.25rem;",
    "  border-bottom: 1px solid #d9e2ec;",
    "  color: var(--accent-color);",
    "  font-size: 1.35rem;",
    "\x7d",
    "",
    ".carta-document p \x7b",
    "  margin: 0 0 1rem;",
    "  white-space: pre-line;",
    "\x7d",
    "",
    ".carta-document ul,",
    ".carta-document ol \x7b",
    "  margin: 0 0 1rem;",
    "  padding-left: 1.5rem;",
    "\x7d",
    "",
    ".carta-document li + li \x7b",
    "  margin-top: 0.25rem;",
    "\x7d",
    "",
    ".carta-document strong \x7b",
    "  color: var(--text-color);",
    "\x7d",
    "",
    "@media (max-width: 600px) \x7b",
    "  body \x7b",
    "    padding: 1rem 0.75rem;",
    "  \x7d",
    "\x7d" ]

/-- The stylesheet that every standalone page embeds. -/
def stylesheet : String := String.join (stylesheetLines.map fun line => line ++ "\n")

end ServiceCharter.Html
