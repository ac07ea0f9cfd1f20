import OperatorShell.Command.Registry
import OperatorShell.Sites.Inventory
import OperatorShell.Text.Blank
import OperatorShell.Text.Layout

/-!
# Commands for sites

The commands of a shell that manages sites: listing and selecting sites, installing
widgets and themes on them, removing widgets, and signing in and out.
-/

namespace OperatorShell.Sites

open Command Text

/-- Characters in the column of ids. -/
def idColumn : Nat := 8

/-- A row with an id and what it stands for. -/
def idRow (id meaning : String) : String := padEnd idColumn id ++ " " ++ meaning

/-- Candidates that are taken from the inventory at once. -/
def offering (candidates : Inventory → List Candidate) : Provider Inventory where
  delay _ _ := 0
  candidates _ inventory := (.ok (candidates inventory), inventory)

/-- A command with a body, arguments and options. -/
def leaf (name description : String) (arguments : List (Argument Inventory))
    (options : List (OptionSpec Inventory))
    (body : Invocation → Script Inventory Unit) : Command Inventory :=
  { ofName name description with
    arguments := arguments
    options := options
    body := some body }

/-- The option that names a site. -/
def siteOption : OptionSpec Inventory where
  name := "site"
  short := some 's'
  description := some "Target site"
  takesValue := true
  provider := some (offering Inventory.siteCandidates)
  validator := some fun inventory value =>
    if inventory.hasSite value then .ok ()
    else .error (.ofMessage ("unknown site `" ++ value ++ "`"))

/-- The argument that names a widget. -/
def widgetArgument : Argument Inventory where
  name := "id"
  description := some "Widget id"
  required := true
  provider := some (offering Inventory.widgetCandidates)
  validator := none

/-- The argument that names a theme. -/
def themeArgument : Argument Inventory where
  name := "name"
  description := some "Theme name"
  required := true
  provider := some (offering Inventory.themeCandidates)
  validator := some fun _ value =>
    if value.toList.contains '/' then
      .error (.ofMessage "theme names cannot contain `/`")
    else .ok ()

/-- A switch. -/
def switch (name : String) (short : Option Char) (description : String) :
    OptionSpec Inventory :=
  ⟨name, short, some description, false, none, none⟩

/-- The first positional value. -/
def firstArgument (invocation : Invocation) (missing : String) :
    Script Inventory String :=
  match invocation.argument? 0 with
  | some value => pure value
  | none => Script.failWith missing

/-- The site that a command works on. -/
def targetSite (invocation : Invocation) : Script Inventory String := do
  let inventory ← Script.get
  match inventory.targetSite? (invocation.value? "site") with
  | some site => pure site
  | none => Script.failWith "no site given; pass --site or run `sites use`"

/-- The widget that a command works on. -/
def targetWidget (invocation : Invocation) : Script Inventory String := do
  let id ← firstArgument invocation "missing widget id"
  let inventory ← Script.get
  if inventory.hasWidget id then pure id
  else Script.failWith ("no widget `" ++ id ++ "`")

/-- The theme that a command works on. -/
def targetTheme (invocation : Invocation) : Script Inventory String := do
  let name ← firstArgument invocation "missing theme name"
  let inventory ← Script.get
  if inventory.hasTheme name then pure name
  else Script.failWith ("no theme `" ++ name ++ "`")

/-- List the sites with a mark at the selected one. -/
def listSites (_ : Invocation) : Script Inventory Unit := do
  let inventory ← Script.get
  inventory.sites.forM fun site => do
    let mark := if inventory.selected = some site.id then "* " else "  "
    Script.printLine (mark ++ idRow site.id site.region)

/-- Let the operator select a site. -/
def useSite (_ : Invocation) : Script Inventory Unit := do
  let inventory ← Script.get
  let chosen ← Script.ask (.choose "Select a site:" inventory.siteCandidates)
  match chosen with
  | some site => do
      Script.printLine ("using " ++ site.value)
      Script.modify (Inventory.select site.value)
  | none => pure ()

/-- List the widgets. -/
def listWidgets (_ : Invocation) : Script Inventory Unit := do
  let inventory ← Script.get
  inventory.widgets.forM fun widget =>
    Script.printLine (idRow widget.id widget.name)

/-- Install a widget, or tell what would happen. -/
def downloadWidget (invocation : Invocation) : Script Inventory Unit := do
  let id ← targetWidget invocation
  let site ← targetSite invocation
  if invocation.has "dryRun" then
    Script.printLine ("would install " ++ id ++ " on " ++ site)
  else do
    Script.modify (Inventory.install id site)
    Script.printLine ("installed " ++ id ++ " on " ++ site)

/-- Whether a widget is to be removed: it is forced, or the operator agrees. -/
def confirmsRemoval (invocation : Invocation) (id : String) :
    Script Inventory Bool :=
  if invocation.has "force" then pure true
  else Script.ask (.confirm ("Remove " ++ id ++ "?") false)

/-- Remove a widget. -/
def removeWidget (invocation : Invocation) : Script Inventory Unit := do
  let id ← targetWidget invocation
  let agreed ← confirmsRemoval invocation id
  if agreed then do
    Script.modify (Inventory.removeWidget id)
    Script.printLine ("removed " ++ id)
  else pure ()

/-- Install a theme. -/
def downloadTheme (invocation : Invocation) : Script Inventory Unit := do
  let name ← targetTheme invocation
  let site ← targetSite invocation
  Script.modify (Inventory.install name site)
  Script.printLine ("installed theme " ++ name ++ " on " ++ site)

/-- The question for a user name. -/
def userPrompt : Prompt :=
  { Prompt.ofHeader "User: " with
    validator := some fun value =>
      if isBlankText value.toList then .error (.ofMessage "user name is required")
      else .ok () }

/-- Sign in. -/
def signIn (_ : Invocation) : Script Inventory Unit := do
  let user ← Script.ask (.ask userPrompt)
  let password ← Script.ask (.secret "Password: ")
  if password = "" then Script.failWith "empty password"
  else do
    Script.printLine ("signed in as " ++ user)
    Script.modify (Inventory.signIn user)

/-- Sign out. -/
def signOut (_ : Invocation) : Script Inventory Unit := do
  let inventory ← Script.get
  match inventory.user with
  | some user => do
      Script.modify Inventory.signOut
      Script.printLine ("signed out " ++ user)
  | none => pure ()

/-- The commands in the order in which they are offered. -/
def commands : List (Command Inventory) :=
  [{ ofName "sites" "Show and select sites" with
      subcommands :=
        [leaf "list" "List sites" [] [] listSites,
         leaf "use" "Select the default site" [] [] useSite] },
   { ofName "widgets" "Manage widgets" with
      longDescription := some
        "Widgets are installed per site. Select a default site with `sites use`."
      subcommands :=
        [leaf "list" "List widgets" [] [] listWidgets,
         leaf "download" "Install a widget on a site" [widgetArgument]
          [siteOption, switch "dry-run" none "Show what would happen"] downloadWidget,
         leaf "remove" "Delete a widget" [widgetArgument]
          [switch "force" (some 'f') "Do not ask"] removeWidget] },
   { ofName "themes" "Manage themes" with
      subcommands :=
        [leaf "download" "Install a theme on a site" [themeArgument] [siteOption]
          downloadTheme] },
   leaf "login" "Sign in" [] [] signIn,
   { leaf "logout" "Sign out" [] [] signOut with
      disabled := some fun inventory => inventory.user.isNone }]

/-- The commands by id. -/
def registry : Except RegistryError (Registry Inventory) :=
  Registry.ofCommands commands

end OperatorShell.Sites
