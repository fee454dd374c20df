import CivicSite.Stylesheet.Basic
import CivicSite.Text.Basic

/-!
# The styles of a website

The styles that every website starts from, those that only the preview has, and how the styles
of one website are put after the former.
-/

namespace CivicSite.Stylesheet

/-! ## Every website -/

/-- Starting point for every browser. -/
def resetStyles : Stylesheet := [
  .remark "Reset" ⟨"*", [("margin", "0"), ("padding", "0"), ("box-sizing", "border-box")]⟩,
  .rule ⟨"body", [
      ("font-family", "-apple-system, BlinkMacSystemFont, \"Segoe UI\", Roboto, " ++
        "\"Helvetica Neue\", Arial, sans-serif"),
      ("line-height", "1.6"), ("color", "#333")]⟩]

/-- One class for each alignment. -/
def alignmentStyles : Stylesheet := [
  .remark "Alignment classes" ⟨".left", [("text-align", "left")]⟩,
  .rule ⟨".center", [("text-align", "center")]⟩,
  .rule ⟨".right", [("text-align", "right")]⟩]

def headerStyles : Stylesheet := [
  .remark "Header" ⟨".header", [("background", "#10b981"), ("color", "white"),
      ("padding", "20px")]⟩,
  .rule ⟨".header h1", [("margin-bottom", "4px")]⟩,
  .rule ⟨".header-subtitle", [("opacity", "0.85"), ("font-size", "14px")]⟩,
  .rule ⟨".header nav", [("margin-top", "10px")]⟩,
  .rule ⟨".header nav a", [("color", "white"), ("text-decoration", "none"), ("margin", "0 10px"),
      ("padding", "5px 10px"), ("border-radius", "4px"), ("transition", "background 0.3s")]⟩,
  .rule ⟨".header nav a:hover", [("background", "#059669")]⟩]

def heroStyles : Stylesheet := [
  .remark "Hero Section" ⟨".hero", [
      ("background", "linear-gradient(135deg, #10b981 0%, #047857 100%)"), ("color", "white"),
      ("padding", "60px 20px")]⟩,
  .rule ⟨".hero h1", [("font-size", "48px"), ("margin-bottom", "16px")]⟩,
  .rule ⟨".hero p", [("font-size", "20px"), ("opacity", "0.9")]⟩]

def sectionStyles : Stylesheet := [
  .remark "About, Services, Contact, Blog, Map Sections"
    ⟨".about, .services, .contact, .blog, .map, .blog-listing", [
      ("padding", "60px 20px"), ("max-width", "1200px"), ("margin", "0 auto")]⟩,
  .rule ⟨".about h2, .services h2, .contact h2, .blog h2, .map h2, .blog-listing h2", [
      ("font-size", "32px"), ("margin-bottom", "16px"), ("color", "#10b981")]⟩,
  .rule ⟨".about p, .services p, .contact p", [("font-size", "16px"), ("line-height", "1.8"),
      ("color", "#666")]⟩]

/-- The cards of posts. -/
def blogStyles : Stylesheet := [
  .remark "Blog Section" ⟨".blog-posts", [("display", "grid"),
      ("grid-template-columns", "repeat(auto-fill, minmax(300px, 1fr))"), ("gap", "24px"),
      ("margin-top", "32px"), ("text-align", "left")]⟩,
  .rule ⟨".blog-post", [("background", "white"), ("border-radius", "12px"), ("padding", "24px"),
      ("box-shadow", "0 2px 8px rgba(0, 0, 0, 0.1)"),
      ("transition", "transform 0.3s ease, box-shadow 0.3s ease")]⟩,
  .rule ⟨".blog-post:hover", [("transform", "translateY(-4px)"),
      ("box-shadow", "0 4px 16px rgba(0, 0, 0, 0.15)")]⟩,
  .rule ⟨".blog-post-date", [("font-size", "14px"), ("color", "#6b7280"),
      ("margin-bottom", "8px")]⟩,
  .rule ⟨".blog-post h3", [("font-size", "20px"), ("margin-bottom", "8px"), ("color", "#1f2937")]⟩,
  .rule ⟨".blog-post-description", [("font-size", "14px"), ("color", "#4b5563"),
      ("margin-bottom", "12px")]⟩,
  .rule ⟨".blog-post-content", [("font-size", "15px"), ("line-height", "1.7"),
      ("color", "#374151")]⟩,
  .rule ⟨".blog-post-link", [("display", "inline-block"), ("margin-top", "12px"),
      ("color", "#10b981"), ("font-weight", "600"), ("text-decoration", "none")]⟩,
  .rule ⟨".blog-more", [("margin-top", "24px")]⟩,
  .rule ⟨".btn-blog-all", [("display", "inline-block"), ("padding", "10px 20px"),
      ("border-radius", "6px"), ("background", "#10b981"), ("color", "white"),
      ("text-decoration", "none")]⟩,
  .rule ⟨".loading, .blog-empty, .blog-error", [("grid-column", "1 / -1"),
      ("text-align", "center"), ("color", "#6b7280")]⟩,
  .rule ⟨".blog-error", [("color", "#ef4444")]⟩]

/-- Search and page buttons of the listing. -/
def blogPageStyles : Stylesheet := [
  .remark "Blog page" ⟨".blog-search input", [("width", "100%"), ("max-width", "480px"),
      ("padding", "10px 14px"), ("border", "2px solid #e5e7eb"), ("border-radius", "8px"),
      ("font-size", "16px")]⟩,
  .rule ⟨".pagination", [("display", "flex"), ("flex-wrap", "wrap"),
      ("justify-content", "center"), ("gap", "8px"), ("margin-top", "32px")]⟩,
  .rule ⟨".page-btn", [("min-width", "40px"), ("padding", "8px 12px"),
      ("border", "1px solid #d1d5db"), ("border-radius", "6px"), ("background", "white"),
      ("cursor", "pointer")]⟩,
  .rule ⟨".page-btn.active", [("background", "#10b981"), ("border-color", "#10b981"),
      ("color", "white")]⟩,
  .rule ⟨".page-btn:disabled", [("opacity", "0.5"), ("cursor", "default")]⟩]

def postPageStyles : Stylesheet := [
  .remark "Post page" ⟨".post-page", [("max-width", "800px"), ("margin", "0 auto"),
      ("padding", "40px 20px")]⟩,
  .rule ⟨".post-back", [("color", "#10b981"), ("text-decoration", "none")]⟩,
  .rule ⟨".post h2", [("font-size", "36px"), ("margin", "16px 0 8px")]⟩,
  .rule ⟨".post-date", [("margin-top", "24px"), ("color", "#6b7280")]⟩,
  .rule ⟨".post-description", [("font-size", "18px"), ("color", "#4b5563"),
      ("margin-bottom", "24px")]⟩,
  .rule ⟨".post-content", [("font-size", "17px"), ("line-height", "1.8")]⟩,
  .rule ⟨".post-loading,\n.post-missing", [("margin-top", "24px"), ("color", "#6b7280")]⟩]

def mapStyles : Stylesheet := [
  .remark "Map Section" ⟨"#map", [("border", "2px solid #e5e7eb"),
      ("box-shadow", "0 4px 12px rgba(0, 0, 0, 0.1)")]⟩,
  .rule ⟨".map-error", [("padding", "40px"), ("color", "#6b7280")]⟩]

def footerStyles : Stylesheet := [
  .remark "Footer" ⟨".footer", [("background", "#1a1a2e"), ("color", "white"),
      ("padding", "20px"), ("margin-top", "40px")]⟩,
  .rule ⟨".footer p", [("opacity", "0.8")]⟩]

/-- Smaller screens. -/
def responsiveStyles : Stylesheet := [
  .media (some "Responsive") "(max-width: 768px)" [
    ⟨".hero h1", [("font-size", "32px")]⟩,
    ⟨".about, .services, .contact, .blog, .map, .blog-listing", [("padding", "40px 20px")]⟩,
    ⟨".about h2, .services h2, .contact h2, .blog h2, .map h2, .blog-listing h2", [
      ("font-size", "24px")]⟩,
    ⟨".header nav a", [("display", "inline-block"), ("margin", "4px")]⟩],
  .media none "(max-width: 480px)" [
    ⟨".blog-posts", [("grid-template-columns", "1fr")]⟩,
    ⟨".post h2", [("font-size", "28px")]⟩]]

/-- The styles of every website. -/
def base : Stylesheet :=
  resetStyles ++ alignmentStyles ++ headerStyles ++ heroStyles ++
    sectionStyles ++ blogStyles ++ blogPageStyles ++ postPageStyles ++
    mapStyles ++ footerStyles ++ responsiveStyles

/-! ## The preview -/

/-- The styles that only the preview has. -/
def preview : Stylesheet := [
  .rule ⟨"body.preview", [("background", "#e5e7eb")]⟩,
  .rule ⟨".preview-frame", [("margin", "0 auto"), ("background", "#fff"), ("min-height", "100vh"),
      ("box-shadow", "0 0 24px rgba(0, 0, 0, 0.12)")]⟩,
  .rule ⟨".preview-empty", [("padding", "120px 20px"), ("text-align", "center"),
      ("color", "#6b7280"), ("font-size", "18px")]⟩,
  .rule ⟨".preview-more", [("grid-column", "1 / -1"), ("text-align", "center"),
      ("padding", "20px"), ("color", "#6b7280"), ("font-style", "italic")]⟩,
  .rule ⟨".map-placeholder", [("height", "400px"), ("display", "flex"),
      ("flex-direction", "column"), ("align-items", "center"), ("justify-content", "center"),
      ("gap", "8px"), ("background", "#f3f4f6"), ("color", "#6b7280"), ("border-radius", "12px")]⟩]

/-! ## One website -/

/-- The style sheet of a website with styles of its own. -/
def custom (styles : Text) : Text :=
  if styles.isEmpty then base.text
  else base.text ++ "\n/* Custom Styles */\n" ++ styles

end CivicSite.Stylesheet
