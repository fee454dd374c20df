import CivicSite.Window.Command

/-!
# The layout of the window

The window as a description: three columns with the components, the editors and the preview,
the menus, and the timer. What users can change is in it as it is at the moment; the rest never
changes.
-/

namespace CivicSite

open Page (Screen)

/-! ## Captions -/

/-- The caption of a field in the form. -/
def Field.label : Field → Text
  | title => "Titlu"
  | subtitle => "Subtitlu"
  | description => "Descriere"

/-- What editors call an alignment. -/
def Alignment.label : Alignment → Text
  | left => "Stânga"
  | center => "Centru"
  | right => "Dreapta"

/-- The caption of a screen's button. -/
def Page.Screen.label : Screen → Text
  | .desktop => "Desktop"
  | .tablet => "Tabletă"
  | .mobile => "Mobil"

def Tab.label : Tab → Text
  | content => "Conținut"
  | styles => "CSS personalizat"
  | code => "Cod generat"

namespace Window

/-- The caption of a button or menu entry. -/
def caption (w : Window) : Command → Text
  | .create => "Creează website"
  | .add => "Adaugă"
  | .up => "Sus"
  | .down => "Jos"
  | .delete => "Șterge"
  | .publish => w.publishCaption
  | .listing => "Pagina de noutăți"
  | .screen s => s.label
  | .openSettlement => "Deschide localitate…"
  | .reloadPosts => "Reîncarcă postările"
  | .exportSite => "Export Site…"
  | .reset => "Resetează ciorna"
  | .quit => "Quit"
  | .about => "About"

end Window

/-! ## Descriptions -/

/-- The space around the items of a column and between them. -/
structure Spacing where
  margins : List Nat
  between : Nat
deriving DecidableEq, Repr

/-- A part of the window and the parts in it. -/
inductive Layout where
  /-- Parts side by side, whose borders can be dragged. -/
  | splitter (widths : List Nat) (parts : List Layout)
  | panel (inside : Layout)
  /-- Parts one above the other; those with a stretch share the space that is left. -/
  | column (spacing? : Option Spacing) (items : List (Nat × Layout))
  | row (items : List (Nat × Layout))
  | gap
  | form (rows : List (Text × Layout))
  | label (text : Text) (wraps : Bool)
  | button (caption : Text) (checkable checked : Bool)
  | list
  | choice (items : List (Text × Text))
  | line (hint : Text)
  | text (hint : Text) (readOnly wraps : Bool)
  | tabs (flat : Bool) (pages : List (Text × Layout))
  | browser

/-- A menu: its entries, with nothing for a separator. -/
structure Menu where
  title : Text
  entries : List (Option Text)
deriving DecidableEq, Repr

/-- The whole window. -/
structure Frame where
  title : Text
  width : Nat
  height : Nat
  menus : List Menu
  inside : Layout
  /-- After how many milliseconds typed text is taken over, and whether that happens once. -/
  delay : Nat
  once : Bool

namespace Window

/-- A button that is pressed and springs back. -/
def button (w : Window) (c : Command) : Layout := .button (w.caption c) false false

def screenButton (w : Window) (s : Screen) : Layout :=
  .button (w.caption (.screen s)) true (w.pane.pressed == s)

/-- The place to type a field in: one line, or several where texts may be long. -/
def editorFor : Field → Layout
  | .description => .text "" false true
  | _ => .line ""

/-- A part that takes up no more space than it needs. -/
def fixed (part : Layout) : Nat × Layout := (0, part)

def stretched (part : Layout) : Nat × Layout := (1, part)

def columnSpacing : Spacing := ⟨[6, 6, 6, 6], 6⟩

def componentColumn (w : Window) : Layout :=
  .panel (.column (some columnSpacing) [
    fixed (.label w.label true),
    fixed (w.button .create),
    fixed (.label "Componente" false),
    stretched .list,
    fixed (.row [
      stretched (.choice (Kind.all.map fun k => (k.label, k.name))),
      fixed (w.button .add)]),
    fixed (.row ([Command.up, .down, .delete].map fun c => fixed (w.button c))),
    fixed (.row [
      fixed (.label "Aliniere" false),
      stretched (.choice (Alignment.all.map fun a => (a.label, a.name)))]),
    fixed (w.button .publish)])

def page : Tab → Layout
  | .content => .panel (.form (Field.all.map fun f => (f.label, editorFor f)))
  | .styles => .text "/* CSS personalizat, adăugat după stilurile de bază */" false true
  | .code => .tabs false (codeFiles.map fun name => (name, .text "" true false))

def previewColumn (w : Window) : Layout :=
  .panel (.column (some columnSpacing) [
    fixed (.label "Preview" false),
    fixed (.row (Screen.all.map (fun s => fixed (w.screenButton s)) ++ [
      stretched .gap,
      fixed (.button (w.caption .listing) true w.pane.listing)])),
    fixed (.line "Caută în postări..."),
    stretched .browser])

def menu (w : Window) (title : Text) (groups : List (List Command)) : Menu :=
  ⟨title, List.intercalate [none] (groups.map fun g => g.map fun c => some (w.caption c))⟩

def frame (w : Window) : Frame where
  title := w.title
  width := 1320
  height := 820
  menus := [
    w.menu "&File" [[.openSettlement, .reloadPosts], [.exportSite, .reset], [.quit]],
    w.menu "&Help" [[.about]]]
  inside := .splitter [260, 480, 580] [
    w.componentColumn,
    .tabs true (Tab.all.map fun t => (t.label, page t)),
    w.previewColumn]
  delay := 400
  once := true

end Window

end CivicSite
