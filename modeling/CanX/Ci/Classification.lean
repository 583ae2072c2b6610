import CanX.Dbc.Service

/-! Which validation jobs a change needs: the tables of path patterns, and the routing of a set of changed paths. -/

namespace CanX.Ci

open Dbc

section Patterns

def criticalPatterns : List Text := [
  ".github/workflows/**", "tools/ci/**", "scripts/**", "runtime/canx/safety/**", "docs/architecture/**", "AGENTS.md",
  "PRD.md", "SPEC.md", "pyproject.toml", "package.json", "pnpm-lock.yaml", "pnpm-workspace.yaml",
  "apps/desktop/src-tauri/Cargo.toml", "apps/desktop/src-tauri/Cargo.lock", ".agent/config.json", ".agent/schemas/**",
  "docs/engineering/INTEGRATION_POLICY.md", "docs/engineering/MULTI_AGENT_PROTOCOL.md"].map text

def rustPatterns : List Text := ["apps/desktop/src-tauri/**"].map text

def frontendPatterns : List Text := [
  "apps/desktop/src/**", "apps/desktop/index.html", "apps/desktop/package.json", "apps/desktop/vite.config.ts",
  "apps/desktop/tsconfig.json", "apps/desktop/eslint.config.js"].map text

def runtimePatterns : List Text := ["runtime/**", "tests/**", "tools/agent/**", ".agent/**"].map text

def sharedContractPatterns : List Text :=
  ["runtime/canx/api/**", "runtime/canx/domain/**", "runtime/canx/transport/**"].map text

def desktopControlApiPatterns : List Text := ["runtime/canx/api/app.py"].map text

def tauriIpcRustPatterns : List Text := ["apps/desktop/src-tauri/src/**"].map text

def tauriIpcFrontendPatterns : List Text :=
  ["apps/desktop/src/desktop/**", "apps/desktop/src/runtime/runtime-client.ts", "apps/desktop/src/smoke/**"].map text

def docsPatterns : List Text := ["docs/**", "*.md"].map text

end Patterns

section Matching

/-- `fnmatch.fnmatchcase`; no pattern of the tables has a class. -/
def fnmatchcase (path : Text) : Text → Bool
  | [] => path.isEmpty
  | letter :: pattern =>
    if letter = codePoint '*' then path.tails.any fun rest => fnmatchcase rest pattern
    else
      match path with
      | [] => false
      | first :: rest => (letter = codePoint '?' || letter = first) && fnmatchcase rest pattern

/-- `_match`. -/
def matchesPattern (path pattern : Text) : Bool :=
  if (text "/**").isSuffixOf pattern then
    let directory := pattern.take (pattern.length - 3)
    path = directory || (directory ++ text "/").isPrefixOf path
  else if codePoint '*' ∈ pattern then fnmatchcase path pattern
  else path = pattern

def matchesAny (path : Text) (patterns : List Text) : Bool := patterns.any (matchesPattern path)

/-- The leading `./` go, however many there are. -/
def dropLeading : Text → Text
  | first :: second :: rest =>
    if first = codePoint '.' ∧ second = codePoint '/' then dropLeading rest else first :: second :: rest
  | path => path

def normalise (raw : Text) : Text :=
  dropLeading (raw.strip.map fun point => if point = codePoint '\\' then codePoint '/' else point)

end Matching

section Routing

structure Classification where
  runtimeRequired : Bool
  frontendRequired : Bool
  rustRequired : Bool
  fullRequired : Bool
  classification : Text
  reason : Text
  paths : List Text
  unmatched : List Text

def Classification.full (reason : Text) (paths : List Text) : Classification :=
  ⟨true, true, true, true, text "full", reason, paths, []⟩

/-- One test of the loop: the jobs that a path of these patterns needs. -/
structure Rule where
  patterns : List Text
  runtime : Bool
  frontend : Bool
  rust : Bool

def rules : List Rule := [
  ⟨rustPatterns, false, false, true⟩,
  ⟨frontendPatterns, false, true, false⟩,
  ⟨runtimePatterns, true, false, false⟩,
  ⟨sharedContractPatterns, true, true, false⟩,
  ⟨desktopControlApiPatterns, true, true, true⟩,
  ⟨tauriIpcRustPatterns, false, true, true⟩,
  ⟨tauriIpcFrontendPatterns, false, true, true⟩,
  ⟨docsPatterns, false, false, false⟩]

/-- What the loop has gathered. -/
structure Tally where
  runtime : Bool
  frontend : Bool
  rust : Bool
  unmatched : List Text

/-- One test of the loop, with whether the path is known by now. -/
def Rule.apply (path : Text) (gathered : Tally × Bool) (rule : Rule) : Tally × Bool :=
  if matchesAny path rule.patterns then
    ({ gathered.1 with
        runtime := gathered.1.runtime || rule.runtime
        frontend := gathered.1.frontend || rule.frontend
        rust := gathered.1.rust || rule.rust }, true)
  else gathered

def Tally.visit (tally : Tally) (path : Text) : Tally :=
  let (gathered, known) := rules.foldl (Rule.apply path) (tally, false)
  if known then gathered else { gathered with unmatched := gathered.unmatched ++ [path] }

def labels (runtime frontend rust : Bool) : List Text :=
  (([("runtime", runtime), ("frontend", frontend), ("rust", rust)].filter Prod.snd).map Prod.fst).map text

def domainLabel (runtime frontend rust : Bool) : Text :=
  if labels runtime frontend rust = [] then text "docs_only"
  else List.intercalate (text "+") (labels runtime frontend rust)

/-- The paths in their normal form, where that is not empty. -/
def considered (paths : List Text) : List Text := (paths.map normalise).filter fun path => path ≠ []

def classifyPaths (paths : List Text) : Classification :=
  let considered := considered paths
  if considered = [] then ⟨false, false, false, false, text "no_changes", text "no changed paths", [], []⟩
  else
    let critical := considered.filter fun path => matchesAny path criticalPatterns
    if critical ≠ [] then
      .full (text "critical authority changed: " ++ List.intercalate (text ", ") critical) considered
    else
      let tally := considered.foldl Tally.visit ⟨false, false, false, []⟩
      if tally.unmatched ≠ [] then
        ⟨true, true, true, true, text "full",
          text "unrecognised path escalated to FULL CI: " ++ List.intercalate (text ", ") tally.unmatched, considered,
          tally.unmatched⟩
      else
        ⟨tally.runtime, tally.frontend, tally.rust, false, domainLabel tally.runtime tally.frontend tally.rust,
          text "classified from " ++ text (toString considered.length) ++ text " changed path(s)", considered, []⟩

end Routing

section Demands

/-- The three domain jobs. -/
inductive Domain
  | runtime
  | frontend
  | rust
  deriving DecidableEq

def Classification.requires (routed : Classification) : Domain → Bool
  | .runtime => routed.runtimeRequired
  | .frontend => routed.frontendRequired
  | .rust => routed.rustRequired

def Rule.requires (rule : Rule) : Domain → Bool
  | .runtime => rule.runtime
  | .frontend => rule.frontend
  | .rust => rule.rust

def Tally.requires (tally : Tally) : Domain → Bool
  | .runtime => tally.runtime
  | .frontend => tally.frontend
  | .rust => tally.rust

/-- Some test of the loop knows the path. -/
def known (path : Text) : Bool := rules.any fun rule => matchesAny path rule.patterns

/-- A path asks for a job: as a critical one, as an unknown one, or by a test of the loop. -/
def demands (domain : Domain) (path : Text) : Bool :=
  matchesAny path criticalPatterns || !known path ||
    rules.any fun rule => matchesAny path rule.patterns && rule.requires domain

variable {domain : Domain} {path : Text} {paths : List Text} {tally : Tally}

private theorem apply_fold (domain : Domain) (path : Text) (tests : List Rule) (gathered : Tally × Bool) :
    ((tests.foldl (Rule.apply path) gathered).1.requires domain = (gathered.1.requires domain ||
        tests.any fun rule => matchesAny path rule.patterns && rule.requires domain)) ∧
      (tests.foldl (Rule.apply path) gathered).1.unmatched = gathered.1.unmatched ∧
      (tests.foldl (Rule.apply path) gathered).2 =
        (gathered.2 || tests.any fun rule => matchesAny path rule.patterns) := by
  induction tests generalizing gathered with
  | nil => simp
  | cons rule rest ih =>
    obtain ⟨required, unmatched, seen⟩ := ih (Rule.apply path gathered rule)
    rw [List.foldl_cons, required, unmatched, seen, List.any_cons, List.any_cons]
    by_cases matched : matchesAny path rule.patterns = true
    · have applied : (Rule.apply path gathered rule).1.requires domain =
          (gathered.1.requires domain || rule.requires domain) := by
        rw [Rule.apply, if_pos matched]
        cases domain with
        | runtime => rfl
        | frontend => rfl
        | rust => rfl
      rw [applied, Rule.apply, if_pos matched, matched, Bool.true_and, Bool.or_assoc]
      exact ⟨rfl, rfl, by simp⟩
    · have unmatching := Bool.eq_false_iff.mpr matched
      rw [Rule.apply, if_neg matched, unmatching, Bool.false_and, Bool.false_or, Bool.false_or]
      exact ⟨rfl, rfl, rfl⟩

private theorem visit_requires : (tally.visit path).requires domain = (tally.requires domain ||
    rules.any fun rule => matchesAny path rule.patterns && rule.requires domain) := by
  have gathered := (apply_fold domain path rules (tally, false)).1
  rw [Tally.visit]
  dsimp only
  split
  · exact gathered
  · rw [← gathered]
    cases domain with
    | runtime => rfl
    | frontend => rfl
    | rust => rfl

private theorem visit_unmatched :
    (tally.visit path).unmatched = tally.unmatched ++ if known path then [] else [path] := by
  obtain ⟨-, unmatched, seen⟩ := apply_fold .rust path rules (tally, false)
  rw [Bool.false_or, ← known] at seen
  rw [Tally.visit]
  dsimp only
  rw [seen]
  by_cases found : known path = true
  · rw [if_pos found, if_pos found, unmatched, List.append_nil]
  · rw [if_neg found, if_neg found, unmatched]

theorem visits_requires (domain : Domain) (tally : Tally) (paths : List Text) :
    (paths.foldl Tally.visit tally).requires domain = (tally.requires domain ||
      paths.any fun path => rules.any fun rule => matchesAny path rule.patterns && rule.requires domain) := by
  induction paths generalizing tally with
  | nil => simp
  | cons path rest ih => rw [List.foldl_cons, ih, visit_requires, List.any_cons, Bool.or_assoc]

theorem visits_unmatched (tally : Tally) (paths : List Text) : (paths.foldl Tally.visit tally).unmatched =
    tally.unmatched ++ paths.filter fun path => !known path := by
  induction paths generalizing tally with
  | nil => simp
  | cons path rest ih =>
    rw [List.foldl_cons, ih, visit_unmatched, List.append_assoc, List.filter_cons]
    by_cases found : known path = true
    · simp [found]
    · simp [found]

/-- A classification that a set of paths can have: all jobs, nothing to do, or the jobs that its label names. -/
inductive Routed : Classification → Prop
  | full {routed : Classification} (required : routed.fullRequired = true)
      (all : ∀ domain, routed.requires domain = true) (label : routed.classification = text "full") : Routed routed
  | unchanged {routed : Classification} (optional : routed.fullRequired = false)
      (none : ∀ domain, routed.requires domain = false) (label : routed.classification = text "no_changes") :
      Routed routed
  | domains {routed : Classification} (optional : routed.fullRequired = false)
      (label : routed.classification =
        domainLabel (routed.requires .runtime) (routed.requires .frontend) (routed.requires .rust)) : Routed routed

theorem any_agree {Item : Type} {items : List Item} {first second : Item → Bool}
    (same : ∀ item ∈ items, first item = second item) : items.any first = items.any second := by
  induction items with
  | nil => rfl
  | cons item rest ih =>
    obtain ⟨here, there⟩ := List.forall_mem_cons.mp same
    rw [List.any_cons, List.any_cons, here, ih there]

private theorem requires_full {reason : Text} (domain : Domain) :
    (Classification.full reason paths).requires domain = true := by
  cases domain with
  | runtime => rfl
  | frontend => rfl
  | rust => rfl

/-- How paths are classified, with the jobs that they ask for. -/
theorem classifyPaths_routed (paths : List Text) : Routed (classifyPaths paths) ∧
    ∀ domain, (classifyPaths paths).requires domain = (considered paths).any (demands domain) := by
  rw [classifyPaths]
  generalize considered paths = changed
  dsimp only
  by_cases unchanged : changed = []
  · rw [if_pos unchanged, unchanged]
    have none : ∀ domain, (⟨false, false, false, false, text "no_changes", text "no changed paths", [], []⟩ :
        Classification).requires domain = false := by
      intro domain
      cases domain with
      | runtime => rfl
      | frontend => rfl
      | rust => rfl
    exact ⟨.unchanged rfl none rfl, none⟩
  rw [if_neg unchanged]
  by_cases critical : changed.filter (fun path => matchesAny path criticalPatterns) ≠ []
  · rw [if_pos critical]
    obtain ⟨path, member⟩ := List.exists_mem_of_ne_nil _ critical
    obtain ⟨held, matched⟩ := List.mem_filter.mp member
    refine ⟨.full rfl requires_full rfl, ?_⟩
    intro domain
    have asked : changed.any (demands domain) = true := by
      refine List.any_eq_true.mpr ⟨path, held, ?_⟩
      rw [demands, matched, Bool.true_or, Bool.true_or]
    rw [asked, requires_full]
  rw [if_neg critical, visits_unmatched, List.nil_append]
  have uncritical : ∀ path ∈ changed, matchesAny path criticalPatterns = false := by
    intro path member
    exact Bool.eq_false_iff.mpr fun matched => List.filter_eq_nil_iff.mp (not_not.mp critical) path member matched
  by_cases unmatched : changed.filter (fun path => !known path) ≠ []
  · rw [if_pos unmatched]
    obtain ⟨path, member⟩ := List.exists_mem_of_ne_nil _ unmatched
    obtain ⟨held, unknown⟩ := List.mem_filter.mp member
    have all : ∀ (reason : Text) domain, (⟨true, true, true, true, text "full", reason, changed,
        changed.filter fun path => !known path⟩ : Classification).requires domain = true := by
      intro reason domain
      cases domain with
      | runtime => rfl
      | frontend => rfl
      | rust => rfl
    refine ⟨.full rfl (all _) rfl, ?_⟩
    intro domain
    have asked : changed.any (demands domain) = true := by
      refine List.any_eq_true.mpr ⟨path, held, ?_⟩
      rw [demands, unknown, Bool.or_true, Bool.true_or]
    rw [asked, all]
  · rw [if_neg unmatched]
    have familiar : ∀ path ∈ changed, (!known path) = false := by
      intro path member
      exact Bool.eq_false_iff.mpr fun unknown => List.filter_eq_nil_iff.mp (not_not.mp unmatched) path member unknown
    refine ⟨.domains rfl rfl, ?_⟩
    intro domain
    have gathered := visits_requires domain ⟨false, false, false, []⟩ changed
    have asked : changed.any (demands domain) = changed.any fun path => rules.any fun rule =>
        matchesAny path rule.patterns && rule.requires domain := by
      refine any_agree ?_
      intro path member
      rw [demands, uncritical path member, familiar path member, Bool.false_or, Bool.false_or]
    rw [asked]
    cases domain with
    | runtime => exact gathered.trans (Bool.false_or _)
    | frontend => exact gathered.trans (Bool.false_or _)
    | rust => exact gathered.trans (Bool.false_or _)

end Demands

end CanX.Ci
