import CivicSite.Json.Writer
import CivicSite.Listing
import CivicSite.Script.Blog
import CivicSite.Script.Map
import CivicSite.Script.Page
import CivicSite.Section

/-!
# The script of a website

The script opens with the settings of the website, one constant a line. A setting is written
as a JSON literal of ASCII characters in which the characters that mean something in markup
are escapes too, so no setting can end its line or the element that the script stands in. The
functions follow, then what happens when the page is there.
-/

namespace CivicSite.Script

/-! ## Literals -/

/-- A code point of a literal, as an escape if it means something in markup. -/
def literalPoint (c : CodePoint) : Text :=
  if c == '<' || c == '>' || c == '&' || c == '\'' then Json.unitEscape c.toNat else [c]

def literal (v : Json) : Text :=
  (Json.render .ascii v.sortKeys).flatMap literalPoint

def constant (name value : Text) : Code :=
  .line ("const " ++ name ++ " = " ++ value ++ ";")

/-! ## Settings -/

/-- How often the map looks for its library. -/
def mapRetryLimit : Nat := 20

/-- The milliseconds that the map waits in between. -/
def mapRetryDelay : Nat := 250

def location (s : Settlement) : Text :=
  "\x7b lat: " ++ literal (.double s.lat) ++ ", lng: " ++ literal (.double s.lng) ++ " \x7d"

def settlementConstants (apiUrl : Json) (s : Settlement) : List Code := [
  constant "API_URL" (literal apiUrl),
  constant "SETTLEMENT_ID" (literal (.text s.id)),
  constant "SETTLEMENT_NAME" (literal (.text s.name)),
  constant "SETTLEMENT_REGION" (literal (.text s.region)),
  constant "LOCATION" (location s)]

def blogConstants : List Code := [
  constant "PAGE_SIZE" (toString pageSize),
  constant "TEASER_COUNT" (toString teaserCount),
  constant "TEASER_LENGTH" (toString teaserLength)]

def mapConstants : List Code := [
  constant "MAP_RETRY_LIMIT" (toString mapRetryLimit),
  constant "MAP_RETRY_DELAY" (toString mapRetryDelay)]

/-- The constants that the script starts with. -/
def settings (apiUrl : Json) (s : Settlement) (hasBlog hasMap : Bool) : List Code :=
  .line "// Configuration" :: settlementConstants apiUrl s ++
    (if hasBlog then blogConstants else []) ++ if hasMap then mapConstants else []

/-! ## The start of a page -/

def startBlog : List Code := [
  "",
  "const teaserContainer = document.getElementById('blog-posts-container');",
  .block "if (teaserContainer) " ["loadBlogTeasers(teaserContainer);"] "",
  "",
  "const blogGrid = document.getElementById('blog-posts-grid');",
  .block "if (blogGrid) " ["initBlogPage(blogGrid);"] "",
  "",
  "const postArticle = document.getElementById('post-article');",
  .block "if (postArticle) " ["initPostPage(postArticle);"] ""]

def startMap : List Code := ["", "initMap(0);"]

/-- What happens when a page is there. -/
def start (hasBlog hasMap : Bool) : List Code := [
  .block "document.addEventListener('DOMContentLoaded', function() "
    (.line "initSmoothScroll();" :: .line "initScrollAnimations();" ::
      (if hasBlog then startBlog else []) ++ if hasMap then startMap else [])
    ");"]

/-! ## The script -/

/-- The parts of the script after its settings. -/
def parts (hasBlog hasMap : Bool) : List (List Code) :=
  pageFunctions ++ (if hasBlog then blogFunctions else []) ++
    (if hasMap then mapFunctions else []) ++ [start hasBlog hasMap]

/-- The script of a website, its parts set apart by empty lines. -/
def site (apiUrl : Json) (s : Settlement) (hasBlog hasMap : Bool) : Text :=
  Code.text <| settings apiUrl s hasBlog hasMap ++
    (parts hasBlog hasMap).flatMap fun part => .line "" :: part

end CivicSite.Script
