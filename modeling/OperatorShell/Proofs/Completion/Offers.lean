import OperatorShell.Proofs.Command.Children
import OperatorShell.Proofs.Completion.Cursor

/-!
# Offered names lead to commands

Where the words in front of the cursor make up the path of a command with subcommands, or
there are none, completion lists names from the nested definitions, while resolving looks
up joined ids and has a rule of its own for hidden commands.  Both tell the same: the names
on offer are those of the subcommands that are not hidden, and each of them resolves.
-/

namespace OperatorShell.Command

open Line Text

variable {σ : Type}

/-- The committed tokens are the path of a command and nothing else, or there are none. -/
inductive StandsBehind (registry : Registry σ) (store : σ) (committed : List Token) :
    Option (Resolution σ) → Prop
  | topLevel (nothing : committed = []) : StandsBehind registry store committed none
  | path {anchor : Resolution σ}
      (positional : ∀ token ∈ committed, token.isPositional = true)
      (resolved : registry.resolve store (committed.map tokenValue) = .ok anchor)
      (whole : anchor.depth = committed.length) :
      StandsBehind registry store committed (some anchor)

/-- The commands that are not hidden one level below an anchor, or at the top level, in the
order of their registration. -/
def enabledBelow (commands : List (Command σ)) (store : σ) :
    Option (Resolution σ) → List (Command σ)
  | none => (Registry.empty.accepted commands).filter fun tree => !tree.isDisabled store
  | some anchor => anchor.command.enabledSubcommands store

/-- Of these the ones whose name begins with what has been typed. -/
def offered (commands : List (Command σ)) (store : σ) (anchor : Option (Resolution σ))
    (typed : String) : List (Command σ) :=
  (enabledBelow commands store anchor).filter fun child => isStemOf typed child.name

section Offered

variable {commands : List (Command σ)} {store : σ} {committed : List Token}
  {anchor : Resolution σ}

theorem matching_map_candidate (typed : String) (children : List (Command σ)) :
    Candidate.matching typed (children.map Command.candidate) =
      (children.filter fun child => isStemOf typed child.name).map Command.candidate := by
  rw [Candidate.matching, List.filter_map]
  rfl

theorem topLevelCandidates_eq (commands : List (Command σ)) (store : σ) :
    (Registry.afterCalls commands).topLevelCandidates store =
      (enabledBelow commands store none).map Command.candidate := by
  rw [Registry.topLevelCandidates, Registry.filterMap_get?_topLevel, enabledBelow]

theorem subcommandCandidates_eq (store : σ)
    (known : (Registry.afterCalls commands).get? anchor.id = some anchor.command) :
    (Registry.afterCalls commands).subcommandCandidates anchor.id store =
      (enabledBelow commands store (some anchor)).map Command.candidate := by
  simp only [Registry.subcommandCandidates, known, enabledBelow]

theorem leadingWords_of_positional
    (positional : ∀ token ∈ committed, token.isPositional = true) :
    (Clause.mk committed).leadingWords = committed.map tokenValue := by
  rw [Clause.leadingWords, List.takeWhile_eq_self_iff.mpr positional]
  rfl

/-- Behind the path of a command its subcommands are offered. -/
theorem clausePlan_of_path
    (positional : ∀ token ∈ committed, token.isPositional = true)
    (resolved : (Registry.afterCalls commands).resolve store (committed.map tokenValue) =
      .ok anchor)
    (whole : anchor.depth = committed.length) {typing : Option Token}
    (place : slot anchor.command committed typing = .positional)
    (populated : enabledBelow commands store (some anchor) ≠ []) :
    clausePlan (Registry.afterCalls commands) store committed typing =
      .ready (Candidate.matching ((typing.map tokenValue).getD "")
        ((enabledBelow commands store (some anchor)).map Command.candidate)) := by
  have words := leadingWords_of_positional positional
  rw [← List.length_map tokenValue] at whole
  obtain ⟨-, known⟩ := Registry.id_eq_of_resolve resolved whole
  have candidates := subcommandCandidates_eq store known
  rw [clausePlan, words]
  cases path : committed.map tokenValue with
  | nil => exact (Registry.ne_nil_of_resolve resolved path).elim
  | cons first rest =>
      rw [path] at resolved
      simp only [resolved, place, positionalPlan, candidates]
      cases children : (enabledBelow commands store (some anchor)).map Command.candidate with
      | nil => exact (populated (List.map_eq_nil_iff.mp children)).elim
      | cons child others => rfl

/-- The names on offer are different. -/
theorem nodup_names_enabledBelow {anchor : Option (Resolution σ)}
    (stands : StandsBehind (Registry.afterCalls commands) store committed anchor) :
    ((enabledBelow commands store anchor).map Command.name).Nodup := by
  cases stands with
  | topLevel nothing =>
      have nodup := (Registry.holdsForest_accepted commands).topLevel_nodup
      rw [(Registry.holdsForest_accepted commands).topLevel_eq] at nodup
      exact nodup.sublist (List.filter_sublist.map _)
  | path positional resolved whole =>
      rw [← List.length_map tokenValue] at whole
      obtain ⟨-, known⟩ := Registry.id_eq_of_resolve resolved whole
      exact (Registry.nodup_subcommand_names known).sublist (List.filter_sublist.map _)

/-- A name on offer leads one step further down. -/
theorem resolve_of_mem_enabledBelow {anchor : Option (Resolution σ)}
    (stands : StandsBehind (Registry.afterCalls commands) store committed anchor)
    {child : Command σ} (member : child ∈ enabledBelow commands store anchor) :
    (Registry.afterCalls commands).resolve store (committed.map tokenValue ++ [child.name]) =
      .ok ⟨committed.length + 1, childId (anchor.map Resolution.id) child.name, child⟩ := by
  cases stands with
  | topLevel nothing =>
      obtain ⟨accepted, shown⟩ := List.mem_filter.mp member
      rw [nothing]
      exact Registry.resolve_name_of_accepted accepted (by simpa using shown)
  | path positional resolved whole =>
      rw [← List.length_map tokenValue] at whole ⊢
      exact Registry.resolve_concat resolved whole member

end Offered

/-- Where a name is expected behind a path, or at the start of a command, completion offers
the names of the commands one level below that are not hidden and begin with what has been
typed, in the order of their registration and once each; and every one of them resolves,
with one more word, to the command of that name. -/
theorem complete_offers_resolvable (commands : List (Command σ)) (store : σ) (line : String)
    (ended : ¬EndsInOperator line.toList) {anchor : Option (Resolution σ)}
    (stands : StandsBehind (Registry.afterCalls commands) store
      (cursor line.toList).committed anchor)
    (place : ∀ resolution ∈ anchor, slot resolution.command (cursor line.toList).committed
      (cursor line.toList).typing = .positional)
    (populated : enabledBelow commands store anchor ≠ []) :
    let registry := Registry.afterCalls commands
    let words := (cursor line.toList).committed.map tokenValue
    let typed := ((cursor line.toList).typing.map tokenValue).getD ""
    let children := offered commands store anchor typed
    complete registry line store = (.ok (children.map Command.candidate), store) ∧
      (children.map Command.name).Nodup ∧
      ∀ child ∈ children, registry.resolve store (words ++ [child.name]) =
        .ok ⟨words.length + 1, childId (anchor.map Resolution.id) child.name, child⟩ := by
  intro registry words typed children
  refine ⟨?_, ?_, ?_⟩
  · have ready : clausePlan registry store (cursor line.toList).committed
        (cursor line.toList).typing = .ready (children.map Command.candidate) := by
      simp only [children, offered, ← matching_map_candidate]
      cases stands with
      | topLevel nothing => rw [nothing, clausePlan_nil, topLevelCandidates_eq]
      | path positional resolved whole =>
          exact clausePlan_of_path positional resolved whole (place _ rfl) populated
    rw [complete, plan_eq_clausePlan ended, ready]
    rfl
  · exact (nodup_names_enabledBelow stands).sublist (List.filter_sublist.map _)
  · intro child member
    have resolves := resolve_of_mem_enabledBelow stands (List.mem_of_mem_filter member)
    rwa [← List.length_map tokenValue] at resolves

/-- A command with subcommands, of which one is hidden while the store says so. -/
def sites : Command Bool :=
  { Command.ofName "sites" "Manages sites" with
    subcommands := [
      .ofName "list" "Lists sites",
      { Command.ofName "lock" "Locks a site" with disabled := some id },
      .ofName "lint" "Checks a site"] }

/-- A hidden subcommand is left out, and the last one on offer can be run. -/
theorem complete_behind_sites :
    complete (.afterCalls [sites]) "x || sites l" true =
        (.ok [⟨"list", some "Lists sites"⟩, ⟨"lint", some "Checks a site"⟩], true) ∧
      (Registry.afterCalls [sites]).resolve true ["sites", "lint"] =
        .ok ⟨2, "sites:lint", .ofName "lint" "Checks a site"⟩ := by
  have place_eq : cursor "x || sites l".toList =
      ⟨[⟨5, "sites".toList, .word⟩], some ⟨11, "l".toList, .word⟩⟩ := by decide
  have stands : StandsBehind (.afterCalls [sites]) true (cursor "x || sites l".toList).committed
      (some ⟨1, "sites", sites⟩) := by
    rw [place_eq]
    exact .path (by decide) rfl rfl
  have place : ∀ resolution ∈ some (⟨1, "sites", sites⟩ : Resolution Bool),
      slot resolution.command (cursor "x || sites l".toList).committed
        (cursor "x || sites l".toList).typing = .positional := by
    rw [place_eq]
    rintro resolution ⟨⟩
    rfl
  have populated : enabledBelow [sites] true (some ⟨1, "sites", sites⟩) ≠ [] :=
    List.cons_ne_nil _ _
  obtain ⟨answer, -, resolves⟩ :=
    complete_offers_resolvable [sites] true "x || sites l" (by decide) stands place populated
  have children : offered [sites] true (some ⟨1, "sites", sites⟩)
      (((cursor "x || sites l".toList).typing.map tokenValue).getD "") =
        [.ofName "list" "Lists sites", .ofName "lint" "Checks a site"] := by
    rw [place_eq]
    rfl
  rw [children] at answer resolves
  rw [place_eq] at resolves
  exact ⟨answer, resolves (.ofName "lint" "Checks a site") (by simp)⟩

end OperatorShell.Command
