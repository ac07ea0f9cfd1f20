import OperatorShell.Candidate

/-!
# The inventory of sites

What a shell for sites works on: the sites with their regions, the widgets and themes
that can be installed on them, what has been installed where, the site that is
selected, and the user who is signed in.
-/

namespace OperatorShell.Sites

/-- A site. -/
structure Site where
  id : String
  region : String
  deriving DecidableEq, Repr

/-- A widget that can be installed. -/
structure Widget where
  id : String
  name : String
  deriving DecidableEq, Repr

/-- A widget or theme on a site. -/
structure Installation where
  /-- Id of the widget or name of the theme. -/
  item : String
  /-- Id of the site. -/
  site : String
  deriving DecidableEq, Repr

/-- Everything that the commands of the shell see and change. -/
structure Inventory where
  sites : List Site
  /-- In the order of their ids. -/
  widgets : List Widget
  themes : List String
  /-- Oldest first. -/
  installations : List Installation
  /-- Id of the site that commands mean when they name none. -/
  selected : Option String
  user : Option String
  deriving DecidableEq, Repr

namespace Inventory

/-- The inventory that a shell starts with. -/
def initial : Inventory where
  sites :=
    [⟨"siteUS", "United States"⟩, ⟨"siteEU", "Europe"⟩, ⟨"siteAP", "Asia Pacific"⟩]
  widgets := [⟨"w-100", "Clock"⟩, ⟨"w-200", "Weather"⟩, ⟨"w-300", "Stock ticker"⟩]
  themes := ["Dark Mode", "Light", "Solarized"]
  installations := []
  selected := none
  user := none

/-- Whether there is a site with the id. -/
def hasSite (inventory : Inventory) (id : String) : Bool :=
  inventory.sites.any (·.id == id)

/-- Whether there is a widget with the id. -/
def hasWidget (inventory : Inventory) (id : String) : Bool :=
  inventory.widgets.any (·.id == id)

/-- Whether there is a theme with the name. -/
def hasTheme (inventory : Inventory) (name : String) : Bool :=
  inventory.themes.contains name

/-- The sites as something to offer. -/
def siteCandidates (inventory : Inventory) : List Candidate :=
  inventory.sites.map fun site => ⟨site.id, some site.region⟩

/-- The widgets as something to offer. -/
def widgetCandidates (inventory : Inventory) : List Candidate :=
  inventory.widgets.map fun widget => ⟨widget.id, some widget.name⟩

/-- The themes as something to offer. -/
def themeCandidates (inventory : Inventory) : List Candidate :=
  inventory.themes.map .plain

/-- The site that a command works on: the one that it names, or else the selected
one. -/
def targetSite? (inventory : Inventory) (named : Option String) : Option String :=
  named <|> inventory.selected

/-- Put an item on a site. -/
def install (item site : String) (inventory : Inventory) : Inventory :=
  { inventory with installations := inventory.installations ++ [⟨item, site⟩] }

/-- Take a widget out of the inventory. -/
def removeWidget (id : String) (inventory : Inventory) : Inventory :=
  { inventory with widgets := inventory.widgets.filter (·.id != id) }

/-- Select a site. -/
def select (site : String) (inventory : Inventory) : Inventory :=
  { inventory with selected := some site }

/-- Sign a user in. -/
def signIn (user : String) (inventory : Inventory) : Inventory :=
  { inventory with user := some user }

/-- Sign the user out. -/
def signOut (inventory : Inventory) : Inventory := { inventory with user := none }

end Inventory

end OperatorShell.Sites
