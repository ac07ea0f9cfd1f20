import OperatorShell.Proofs.Session.Endings
import OperatorShell.Proofs.Session.Gate
import OperatorShell.Proofs.Session.Lines
import OperatorShell.Sites.Commands

/-!
# What is installed where

A command installs an item that the inventory has on a site that it was told, which its option
checks, or else on the selected one, which was chosen among the sites.  So whatever is typed and
answered, everything is installed on sites of the inventory, and each installation goes back to a
command that found the item there.
-/

namespace OperatorShell.Sites

open Command Session Line

namespace Inventory

/-- A command with this id installs the item, and the item is there to be installed. -/
inductive Offers (inventory : Inventory) (item : String) : String → Prop where
  | widget (known : inventory.hasWidget item = true) : Offers inventory item "widgets:download"
  | theme (known : inventory.hasTheme item = true) : Offers inventory item "themes:download"

/-- What a command with this id can make of an inventory. -/
inductive Alters (before : Inventory) (id : String) : Inventory → Prop where
  | keeps : Alters before id before
  | selects {site : String} (known : before.hasSite site = true) :
      Alters before id (before.select site)
  | installs {item site : String} (offered : before.Offers item id)
      (known : before.hasSite site = true ∨ before.selected = some site) :
      Alters before id (before.install item site)
  | removes (widget : String) : Alters before id (before.removeWidget widget)
  | signs (user : Option String) : Alters before id { before with user := user }

/-- The inventory names no sites but its own. -/
structure Sound (inventory : Inventory) : Prop where
  installed : ∀ installation ∈ inventory.installations,
    inventory.hasSite installation.site = true
  selected : ∀ site ∈ inventory.selected, inventory.hasSite site = true

theorem sound_initial : initial.Sound where
  installed _ member := by cases member
  selected _ member := by cases member

section Alters

variable {before after : Inventory} {id : String}

theorem Alters.sound (alters : before.Alters id after) (sound : before.Sound) : after.Sound := by
  cases alters with
  | keeps => exact sound
  | removes | signs => exact ⟨sound.installed, sound.selected⟩
  | selects known =>
      refine ⟨sound.installed, ?_⟩
      rintro site ⟨⟩
      exact known
  | @installs item site offered known =>
      have atSite : before.hasSite site = true := by
        rcases known with told | chosen
        · exact told
        · exact sound.selected site chosen
      refine ⟨?_, sound.selected⟩
      intro installation member
      rcases List.mem_append.mp member with earlier | new
      · exact sound.installed installation earlier
      · obtain rfl := List.mem_singleton.mp new
        exact atSite

/-- What is installed stays so, and anything new was offered. -/
theorem Alters.installations_eq (alters : before.Alters id after) :
    ∃ new, after.installations = before.installations ++ new ∧
      ∀ installation ∈ new, before.Offers installation.item id := by
  cases alters with
  | @installs item site offered known => exact ⟨[⟨item, site⟩], rfl, by simpa using offered⟩
  | _ => exact ⟨[], by simp [select, removeWidget], by simp⟩

end Alters

end Inventory

section Bodies

variable {store : Inventory} {id : String} (invocation : Invocation)

/-- The script makes of the store what a command with this id can. -/
def MayRun (id : String) (script : Script Inventory Unit) (store : Inventory) : Prop :=
  script.Ensures store fun _ after => store.Alters id after

/-- A script that leaves the store alone may run for every command. -/
theorem MayRun.of_finds {script : Script Inventory Unit}
    (found : script.Finds store fun _ => True) : MayRun id script store := by
  refine found.mono ?_
  rintro result after ⟨rfl, -⟩
  exact .keeps

theorem MayRun.bind {α : Type} {script : Script Inventory α} {kind : α → Prop}
    {next : α → Script Inventory Unit} (found : script.Finds store kind)
    (goes : ∀ value, kind value → MayRun id (next value) store) :
    MayRun id (script >>= next) store :=
  found.ensures_bind (fun _ => .keeps) goes

/-- A command that changes the inventory and tells about it has changed it even if nobody reads what
it tells. -/
theorem MayRun.modify {change : Inventory → Inventory} (alters : store.Alters id (change store))
    (text : String) :
    MayRun id (do Script.modify change; Script.printLine text) store := by
  rintro (_ | fault)
  · exact alters
  · exact alters

theorem finds_firstArgument (missing : String) :
    (firstArgument invocation missing).Finds store fun _ => True := by
  unfold firstArgument
  split
  · exact Script.finds_pure trivial
  · exact Script.finds_failWith missing

/-- An item that a command goes on with is there. -/
theorem finds_knownItem (missing : String) (known : Inventory → String → Bool)
    (refusal : String → String) :
    Script.Finds (α := String)
      (do
        let item ← firstArgument invocation missing
        let inventory ← Script.get
        if known inventory item then pure item else Script.failWith (refusal item))
      store (known store · = true) := by
  refine (finds_firstArgument invocation missing).bind fun item _ => Script.finds_get.bind ?_
  rintro inventory rfl
  split
  · rename_i there
    exact Script.finds_pure there
  · exact Script.finds_failWith _

theorem finds_targetWidget :
    (targetWidget invocation).Finds store (store.hasWidget · = true) :=
  finds_knownItem invocation _ Inventory.hasWidget _

theorem finds_targetTheme :
    (targetTheme invocation).Finds store (store.hasTheme · = true) :=
  finds_knownItem invocation _ Inventory.hasTheme _

theorem finds_targetSite :
    (targetSite invocation).Finds store fun site =>
      invocation.value? "site" = some site ∨ store.selected = some site := by
  refine Script.finds_get.bind ?_
  rintro inventory rfl
  split
  · rename_i site found
    apply Script.finds_pure
    cases named : invocation.value? "site" with
    | none => exact .inr (by simpa [Inventory.targetSite?, named] using found)
    | some told => exact .inl (by simpa [Inventory.targetSite?, named] using found)
  · exact Script.finds_failWith _

theorem finds_confirmsRemoval (widget : String) :
    (confirmsRemoval invocation widget).Finds store fun _ => True := by
  unfold confirmsRemoval
  split
  · exact Script.finds_pure trivial
  · exact Script.finds_ask _

theorem mayRun_listSites : MayRun id (listSites invocation) store := by
  refine .bind Script.finds_get fun inventory _ => .of_finds ?_
  exact Script.finds_forM inventory.sites fun _ => Script.finds_printLine _

theorem mayRun_listWidgets : MayRun id (listWidgets invocation) store := by
  refine .bind Script.finds_get fun inventory _ => .of_finds ?_
  exact Script.finds_forM inventory.widgets fun _ => Script.finds_printLine _

theorem mayRun_useSite : MayRun id (useSite invocation) store := by
  refine .bind Script.finds_get ?_
  rintro inventory rfl
  refine .bind (Script.finds_ask _) ?_
  rintro (- | chosen) yields
  · exact .keeps
  · -- The chosen candidate stands for one of the sites.
    obtain ⟨site, member, rfl⟩ := List.mem_map.mp (yields chosen rfl)
    refine .bind (Script.finds_printLine _) fun _ _ => ?_
    exact .selects (List.any_eq_true.mpr ⟨site, member, beq_self_eq_true site.id⟩)

/-- A command that installs what it has found on the site that it works on. -/
theorem mayRun_onSite
    (checked : ∀ site, invocation.value? "site" = some site → store.hasSite site = true)
    {next : String → Script Inventory Unit}
    (goes : ∀ site, (store.hasSite site = true ∨ store.selected = some site) →
      MayRun id (next site) store) :
    MayRun id (targetSite invocation >>= next) store :=
  .bind (finds_targetSite invocation) fun site target =>
    goes site (target.imp_left (checked site))

theorem mayRun_downloadWidget
    (checked : ∀ site, invocation.value? "site" = some site → store.hasSite site = true) :
    MayRun "widgets:download" (downloadWidget invocation) store := by
  refine .bind (finds_targetWidget invocation) fun widget known => ?_
  refine mayRun_onSite invocation checked fun site target => ?_
  split
  · exact .of_finds (Script.finds_printLine _)
  · exact .modify (.installs (.widget known) target) _

theorem mayRun_downloadTheme
    (checked : ∀ site, invocation.value? "site" = some site → store.hasSite site = true) :
    MayRun "themes:download" (downloadTheme invocation) store := by
  refine .bind (finds_targetTheme invocation) fun theme known => ?_
  refine mayRun_onSite invocation checked fun site target => ?_
  exact .modify (.installs (.theme known) target) _

theorem mayRun_removeWidget : MayRun id (removeWidget invocation) store := by
  refine .bind (finds_targetWidget invocation) fun widget _ => ?_
  refine .bind (finds_confirmsRemoval invocation widget) fun agreed _ => ?_
  cases agreed with
  | false => exact .keeps
  | true => exact .modify (.removes widget) _

theorem mayRun_signIn : MayRun id (signIn invocation) store := by
  refine .bind (Script.finds_ask _) fun user _ => ?_
  refine .bind (Script.finds_ask _) fun password _ => ?_
  split
  · exact .keeps
  · exact .bind (Script.finds_printLine _) fun _ _ => .signs (some user)

theorem mayRun_signOut : MayRun id (signOut invocation) store := by
  refine .bind Script.finds_get ?_
  rintro inventory rfl
  split
  · exact .modify (.signs none) _
  · exact .keeps

end Bodies

/-- The commands by id, without their registration. -/
def entries : List (String × Command Inventory) := commands.flatMap (Command.entries none)

/-- The registration refuses none of the commands. -/
theorem registry_eq : registry = .ok (Registry.afterCalls commands) := rfl

theorem mem_entries_of_get? {id : String} {command : Command Inventory}
    (known : (Registry.afterCalls commands).get? id = some command) : (id, command) ∈ entries := by
  have entries_eq : (Registry.afterCalls commands).entries = entries := rfl
  obtain ⟨front, back, split, -⟩ := List.lookup_eq_some_iff.mp known
  rw [← entries_eq, split]
  exact List.mem_append_right front List.mem_cons_self

/-- Every command does what its id stands for, if its option has let the named site pass. -/
theorem mayRun_of_mem_entries {id : String} {command : Command Inventory}
    (member : (id, command) ∈ entries) {body : Invocation → Script Inventory Unit}
    (has_body : command.body = some body) {invocation : Invocation} {store : Inventory}
    (checked : siteOption ∈ command.options → ∀ site, invocation.value? "site" = some site →
      store.hasSite site = true) : MayRun id (body invocation) store := by
  simp only [entries, commands, List.flatMap_cons, List.flatMap_nil, ofName, leaf,
    Command.entries, entriesAll, List.cons_append, List.nil_append, List.append_nil, List.mem_cons,
    List.not_mem_nil, or_false, Prod.mk.injEq] at member
  obtain ⟨-, rfl⟩ | ⟨-, rfl⟩ | ⟨-, rfl⟩ | ⟨-, rfl⟩ | ⟨-, rfl⟩ | ⟨rfl, rfl⟩ | ⟨-, rfl⟩ | ⟨-, rfl⟩ |
    ⟨rfl, rfl⟩ | ⟨-, rfl⟩ | ⟨-, rfl⟩ := member
  all_goals cases has_body
  · exact mayRun_listSites invocation
  · exact mayRun_useSite invocation
  · exact mayRun_listWidgets invocation
  · exact mayRun_downloadWidget invocation (checked List.mem_cons_self)
  · exact mayRun_removeWidget invocation
  · exact mayRun_downloadTheme invocation (checked List.mem_cons_self)
  · exact mayRun_signIn invocation
  · exact mayRun_signOut invocation

/-- However the option was spelled, its value is kept where the check looks it up. -/
theorem get?_site_of_value? {invocation : Invocation} {site : String}
    (named : invocation.value? "site" = some site) :
    invocation.options.get? (Text.camelCaseName siteOption.name) = some (.value site) := by
  have name_eq : Text.camelCaseName siteOption.name = "site" := rfl
  rw [name_eq]
  unfold Invocation.value? at named
  split at named
  · rename_i kept
    cases named
    exact kept
  · cases named

theorem hasSite_of_passes {store : Inventory} {site : String}
    (passes : (if store.hasSite site then .ok ()
      else .error (.ofMessage ("unknown site `" ++ site ++ "`")) : Except Failure Unit) = .ok ()) :
    store.hasSite site = true := by
  split at passes
  · assumption
  · cases passes

section Steps

variable {style : AskStyle} {line : List Char}

/-- A step that calls a command does with the inventory what the id of the command stands for, and
any other step does nothing with it. -/
theorem alters_of_runClause (step : Step (Scene Inventory))
    (ran : runClause (Registry.afterCalls commands) style line step.clause step.before =
      (step.report, step.after)) :
    step.after.store = step.before.store ∨ ∃ invocation, step.report.call = some invocation ∧
      step.before.store.Alters invocation.id step.after.store := by
  have gated := gated_of_runClause ran
  cases called : step.report.call with
  | none => exact .inl (congrArg Scene.store (gated.unchanged called))
  | some invocation =>
      obtain ⟨resolution, body, admitted, rfl⟩ := (gated.call_iff invocation).mp called
      obtain ⟨-, -, -, -, longest⟩ := Registry.resolve_eq_ok admitted.resolved
      have known := (Registry.enabled?_eq_some_iff.mp longest.enabled).1
      refine .inr ⟨_, rfl, ?_⟩
      rw [(gated.called_once resolution body admitted).2]
      refine runScript_of_ensures style step.before
        (mayRun_of_mem_entries (mem_entries_of_get? known) admitted.has_body ?_)
      intro optional site named
      exact hasSite_of_passes
        (admitted.option_passes siteOption optional site (get?_site_of_value? named) _ rfl)

end Steps

/-- What a step has installed. -/
def installed (step : Step (Scene Inventory)) : List Installation :=
  step.after.store.installations.drop step.before.store.installations.length

section Runs

variable {style : AskStyle} {line : List Char}

theorem sound_runClause (clause : Clause) {scene : Scene Inventory} (sound : scene.store.Sound) :
    (runClause (Registry.afterCalls commands) style line clause scene).2.store.Sound := by
  let ran := runClause (Registry.afterCalls commands) style line clause scene
  rcases alters_of_runClause ⟨clause, scene, ran.1, ran.2⟩ rfl with
    unchanged | ⟨invocation, -, alters⟩
  · exact unchanged ▸ sound
  · exact alters.sound sound

theorem installations_of_runClause {step : Step (Scene Inventory)}
    (ran : runClause (Registry.afterCalls commands) style line step.clause step.before =
      (step.report, step.after)) :
    step.after.store.installations = step.before.store.installations ++ installed step ∧
      ∀ installation ∈ installed step, ∃ invocation, step.report.call = some invocation ∧
        step.before.store.Offers installation.item invocation.id := by
  rcases alters_of_runClause step ran with unchanged | ⟨invocation, called, alters⟩
  · simp [installed, unchanged]
  · obtain ⟨new, installations_eq, offered⟩ := alters.installations_eq
    have installed_eq : installed step = new := by
      rw [installed, installations_eq, List.drop_left]
    rw [installed_eq]
    exact ⟨installations_eq, fun installation member =>
      ⟨invocation, called, offered installation member⟩⟩

end Runs

/-- Whatever lines are run and however their questions are answered, every installation and the
selection name a site of the inventory, and the installations are what the steps have installed,
each by a command that found the item in the inventory. -/
theorem runLines_sound (style : AskStyle) (lines : List String) (console : Console) :
    ∃ catalog, registry = .ok catalog ∧
      let start : Scene Inventory := ⟨console, .initial⟩
      let steps := stepsOfLines catalog style lines start
      let inventory := (runLines catalog style lines start).store
      inventory.Sound ∧ inventory.installations = steps.flatMap installed ∧
        ∀ step ∈ steps, ∀ installation ∈ installed step,
          ∃ invocation, step.report.call = some invocation ∧
            step.before.store.Offers installation.item invocation.id := by
  refine ⟨_, registry_eq, ?_⟩
  intro start steps inventory
  refine ⟨?_, ?_, ?_⟩
  · exact holds_runLines (fun scene : Scene Inventory => scene.store.Sound)
      (fun _ clause _ sound => sound_runClause clause sound) lines start
      Inventory.sound_initial
  · exact list_runLines (fun scene : Scene Inventory => scene.store.installations) installed
      (fun _ _ ran => (installations_of_runClause ran).1) lines start
  · intro step taken
    obtain ⟨line, ran⟩ := exists_run_of_mem_stepsOfLines taken
    exact (installations_of_runClause ran).2

/-- A dash behind the name does not get a site past the check. -/
example : (runLines (Registry.afterCalls commands) ⟨10, '*'⟩
    ["themes download Light --site- siteEU", "themes download Light --site- mars"]
    ⟨.ofKeys [], .initial⟩).store.installations = [⟨"Light", "siteEU"⟩] := by decide +kernel

end OperatorShell.Sites
