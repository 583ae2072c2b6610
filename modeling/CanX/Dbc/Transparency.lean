import CanX.Dbc.Load
import CanX.Dbc.Import

/-! Loads of decoders that share one cache, interleaved with each other and with any change of
the projects: each is bound to end as it would without the cache. -/

namespace CanX.Dbc

open Data Transition Program

variable {Database Decoder Root CallId : Type} {engine : Engine Database}
variable {compile : Database → Except PyException Decoder} {seen : Set Bytes} {Value Other : Type}

section Steps

variable {asset asset' : DbcAsset} {raw raw' : Bytes} {world : ProjectWorld} {choice : Choice}
variable {cache : DecoderCache Decoder} {stage : LoadStage Database Decoder}
variable {program : DbcProgram Database Decoder} {key : DecoderKey} {decoder : Decoder}

theorem Verifies.next {request : DbcEffect}
    {rest : Except PyException (request.Answer Database) → DbcProgram Database (DbcAsset × Bytes)}
    (verifies : Verifies engine seen (.perform request rest)) (within : world.Within seen) :
    (performLoad engine request choice world).1.files = world.files ∧
      Verifies engine seen (rest (performLoad engine request choice world).2) := by
  obtain ⟨files, safe⟩ := verifies world within world (fun _ => within) choice trivial
  refine ⟨files, fun current inside => ?_⟩
  exact safe.interfere (fun _ _ _ first second held => second (first held)) (fun _ => inside)

theorem Verifies.returned (verifies : Verifies engine seen (.finish (.ok (asset, raw))))
    (within : world.Within seen) : Verified engine seen asset raw :=
  (verifies world within world (fun _ => within)).2 _ rfl

/-- Bytes of one size and digest are the same bytes. -/
theorem Verified.unique (distinct : seen.InjOn engine.sha256) (first : Verified engine seen asset raw)
    (second : Verified engine seen asset' raw') (same : asset.sha256 = asset'.sha256) : raw = raw' := by
  apply distinct first.known second.known
  rw [← first.digest, ← second.digest, same]

/-- An entry that was made from one asset is what any asset of its key is built into. -/
theorem MadeFrom.serves (distinct : seen.InjOn engine.sha256)
    (made : MadeFrom engine compile seen (DecoderKey.of asset) decoder asset' raw')
    (verified : Verified engine seen asset raw) :
    raw' = raw ∧ asset'.owner = asset.owner ∧ built engine compile asset.encoding raw = .ok decoder := by
  have named := made.named
  simp only [DecoderKey.of, DecoderKey.mk.injEq] at named
  obtain ⟨owner, digest, _, encoding⟩ := named
  have same : raw' = raw := made.verified.unique distinct verified digest.symm
  refine ⟨same, owner.symm, ?_⟩
  rw [← same, encoding]
  exact made.compiled

/-- Every entry of the cache was made from verified bytes. -/
def Founded (engine : Engine Database) (compile : Database → Except PyException Decoder)
    (seen : Set Bytes) (cache : DecoderCache Decoder) : Prop :=
  ∀ key decoder, cache.Holds key decoder → ∃ asset raw, MadeFrom engine compile seen key decoder asset raw

/-- What one step of a call keeps, and what it adds to the cache. -/
structure Progress (engine : Engine Database) (compile : Database → Except PyException Decoder)
    (seen : Set Bytes) (world : ProjectWorld) (cache : DecoderCache Decoder)
    (outcome : LoadOutcome Database Decoder) : Prop where
  sound : outcome.stage.Sound engine compile seen
  files : outcome.world.files = world.files
  bound : outcome.cache.maxEntries = cache.maxEntries
  added : ∀ key decoder, outcome.cache.Holds key decoder → cache.Holds key decoder ∨
    ∃ asset raw, outcome.event = .stored asset raw decoder ∧
      MadeFrom engine compile seen key decoder asset raw
  served : ∀ asset raw decoder, outcome.event = .served asset raw decoder →
    Verified engine seen asset raw ∧ cache.Holds (DecoderKey.of asset) decoder

/-- A step that leaves the project and the cache alone. -/
theorem Progress.still {after : LoadStage Database Decoder} (sound : after.Sound engine compile seen) :
    Progress engine compile seen world cache ⟨after, world, cache, .silent⟩ :=
  ⟨sound, rfl, rfl, fun _ _ held => .inl held, nofun⟩

theorem next_progress (sound : stage.Sound engine compile seen) (within : world.Within seen) :
    Progress engine compile seen world cache (stage.next engine compile choice world cache) := by
  cases stage with
  | verifying program =>
    cases program with
    | perform request rest =>
      obtain ⟨files, verifies⟩ := Verifies.next sound within
      exact ⟨verifies, files, rfl, fun _ _ held => .inl held, nofun⟩
    | finish result =>
      cases result with
      | error error => exact .still trivial
      | ok verified => exact .still (Verifies.returned sound within)
  | consulting asset raw =>
    simp only [LoadStage.next]
    cases consulted : cache.get (DecoderKey.of asset) with
    | mk found touched =>
      have kept (key : DecoderKey) (decoder : Decoder) (held : touched.Holds key decoder) :
          cache.Holds key decoder := by
        rw [← DecoderCache.get_holds, consulted]
        exact held
      have bound : (cache.get (DecoderKey.of asset)).2.maxEntries = cache.maxEntries :=
        DecoderCache.get_maxEntries
      rw [consulted] at bound
      cases found with
      | none =>
        exact ⟨⟨sound, buildDecoder_evaluates asset raw⟩, rfl, bound,
          fun key decoder held => .inl (kept key decoder held), nofun⟩
      | some decoder =>
        refine ⟨trivial, rfl, bound, fun key decoder held => .inl (kept key decoder held), ?_⟩
        rintro _ _ _ ⟨⟩
        exact ⟨sound, DecoderCache.get_some (congrArg Prod.fst consulted)⟩
  | building asset raw program =>
    obtain ⟨verified, evaluated⟩ := sound
    cases program with
    | perform request rest =>
      have computes : (performLoad engine request choice world).1 = world ∧ _ := evaluate_next evaluated
      exact ⟨⟨verified, computes.2⟩, congrArg ProjectWorld.files computes.1, rfl,
        fun _ _ held => .inl held, nofun⟩
    | finish result =>
      cases result with
      | error error => exact .still trivial
      | ok decoder => exact .still ⟨verified, (Option.some.inj evaluated).symm⟩
  | storing asset raw decoder =>
    obtain ⟨verified, compiled⟩ := sound
    refine ⟨trivial, rfl, rfl, ?_, nofun⟩
    intro key held holds
    rcases DecoderCache.put_holds holds with ⟨rfl, rfl⟩ | before
    · exact .inr ⟨asset, raw, rfl, rfl, verified, compiled⟩
    · exact .inl before
  | finished result => exact .still trivial

/-- All that a call without a cache has left to do once its bytes are verified is to compute. -/
theorem uncached_computes (sound : stage.Sound engine compile seen) :
    (∃ request rest, stage = .verifying (.perform request rest)) ∨
      ∃ result, evaluate engine (stage.uncached engine compile) = some result := by
  cases stage with
  | verifying program =>
    cases program with
    | perform request rest => exact .inl ⟨request, rest, rfl⟩
    | finish result =>
      cases result with
      | error error => exact .inr ⟨.error error, rfl⟩
      | ok verified => exact .inr ⟨_, buildDecoder_evaluates verified.1 verified.2⟩
  | consulting asset raw => exact .inr ⟨_, buildDecoder_evaluates asset raw⟩
  | building asset raw program => exact .inr ⟨_, sound.2⟩
  | storing asset raw decoder => exact .inr ⟨.ok decoder, rfl⟩
  | finished result => exact .inr ⟨result, rfl⟩

private theorem uncachedNext_computes {result : Except PyException Decoder}
    (computes : evaluate engine program = some result) :
    (uncachedNext engine choice world program).2 = world ∧
      evaluate engine (uncachedNext engine choice world program).1 = some result := by
  cases program with
  | finish value => exact ⟨rfl, computes⟩
  | perform request rest => exact evaluate_next computes

/-- A call that owes a result keeps owing it: an entry that serves it was made from its own
bytes. -/
theorem next_owed {result : Except PyException Decoder} (distinct : seen.InjOn engine.sha256)
    (founded : Founded engine compile seen cache) (sound : stage.Sound engine compile seen)
    (owed : evaluate engine (stage.uncached engine compile) = some result) :
    (stage.next engine compile choice world cache).world = world ∧
      evaluate engine ((stage.next engine compile choice world cache).stage.uncached engine compile) =
        some result := by
  cases stage with
  | verifying program =>
    cases program with
    | perform request rest => exact evaluate_next owed
    | finish value =>
      cases value with
      | error error => exact ⟨rfl, owed⟩
      | ok verified => exact ⟨rfl, owed⟩
  | consulting asset raw =>
    simp only [LoadStage.next]
    cases consulted : cache.get (DecoderKey.of asset) with
    | mk found touched =>
      cases found with
      | none => exact ⟨rfl, owed⟩
      | some decoder =>
        obtain ⟨other, content, made⟩ := founded _ _ (DecoderCache.get_some (congrArg Prod.fst consulted))
        obtain ⟨_, _, compiled⟩ := made.serves distinct sound
        have due : built engine compile asset.encoding raw = result :=
          Option.some.inj ((buildDecoder_evaluates asset raw).symm.trans owed)
        exact ⟨rfl, congrArg some (compiled.symm.trans due)⟩
  | building asset raw program =>
    cases program with
    | perform request rest => exact evaluate_next owed
    | finish value =>
      cases value with
      | error error => exact ⟨rfl, owed⟩
      | ok decoder => exact ⟨rfl, owed⟩
  | storing asset raw decoder => exact ⟨rfl, owed⟩
  | finished value => exact ⟨rfl, owed⟩

/-- One step of a call with the cache and one step of the call without it. -/
theorem next_coupled (distinct : seen.InjOn engine.sha256)
    (founded : Founded engine compile seen cache) (sound : stage.Sound engine compile seen)
    (coupled : Coupled engine compile stage program) :
    (uncachedNext engine choice world program).2 = (stage.next engine compile choice world cache).world ∧
      Coupled engine compile (stage.next engine compile choice world cache).stage
        (uncachedNext engine choice world program).1 := by
  have owing (result : Except PyException Decoder)
      (owed : evaluate engine (stage.uncached engine compile) = some result)
      (computes : evaluate engine program = some result) :
      (uncachedNext engine choice world program).2 = (stage.next engine compile choice world cache).world ∧
        Coupled engine compile (stage.next engine compile choice world cache).stage
          (uncachedNext engine choice world program).1 := by
    have plain : (uncachedNext engine choice world program).2 = world ∧ _ :=
      uncachedNext_computes computes
    have cached : (stage.next engine compile choice world cache).world = world ∧ _ :=
      next_owed distinct founded sound owed
    exact ⟨plain.1.trans cached.1.symm, .due result cached.2 plain.2⟩
  cases coupled with
  | due result owed computes => exact owing result owed computes
  | same equal =>
    rcases uncached_computes sound with ⟨request, rest, rfl⟩ | ⟨result, owed⟩
    · subst equal
      exact ⟨rfl, .same rfl⟩
    · exact owing result owed (equal ▸ owed)

end Steps

section Runs

variable {process after : LoadProcess Database Decoder Root CallId}
variable {plain : UncachedProcess Database Decoder Root CallId}
variable {worlds : Root → ProjectWorld} {maxEntries : Nat} {positive : 1 ≤ maxEntries}
variable {trace : List (LoadLabel Root CallId × LoadEvent Decoder)}

def LoadProcess.initial (worlds : Root → ProjectWorld) (maxEntries : Nat) (positive : 1 ≤ maxEntries) :
    LoadProcess Database Decoder Root CallId :=
  ⟨worlds, .create maxEntries positive, fun _ => none⟩

def UncachedProcess.initial (worlds : Root → ProjectWorld) :
    UncachedProcess Database Decoder Root CallId :=
  ⟨worlds, fun _ => none⟩

/-- Every content that is written into a project is in `seen`. -/
def LoadLabel.Within (seen : Set Bytes) : LoadLabel Root CallId → Prop
  | .alter _ world => world.Within seen
  | _ => True

/-- Two calls of one name, in the process with the cache and in the one without. -/
inductive CallsCoupled (engine : Engine Database) (compile : Database → Except PyException Decoder)
    (seen : Set Bytes) : Option (Root × LoadStage Database Decoder) →
      Option (Root × DbcProgram Database Decoder) → Prop where
  | absent : CallsCoupled engine compile seen none none
  | present {root : Root} {stage : LoadStage Database Decoder} {program : DbcProgram Database Decoder}
    (sound : stage.Sound engine compile seen) (coupled : Coupled engine compile stage program) :
    CallsCoupled engine compile seen (some (root, stage)) (some (root, program))

/-- An entry of the cache was stored at a step of the run. -/
def StoredIn (trace : List (LoadLabel Root CallId × LoadEvent Decoder)) (asset : DbcAsset) (raw : Bytes)
    (decoder : Decoder) : Prop :=
  ∃ label, (label, LoadEvent.stored asset raw decoder) ∈ trace

/-- What ties a process to its twin without a cache and to the run so far. -/
structure Twinned (engine : Engine Database) (compile : Database → Except PyException Decoder)
    (seen : Set Bytes) (maxEntries : Nat) (trace : List (LoadLabel Root CallId × LoadEvent Decoder))
    (process : LoadProcess Database Decoder Root CallId)
    (plain : UncachedProcess Database Decoder Root CallId) : Prop where
  worlds : plain.worlds = process.worlds
  within : ∀ root, (process.worlds root).Within seen
  calls : ∀ call, CallsCoupled engine compile seen (process.calls call) (plain.calls call)
  bound : process.cache.maxEntries = maxEntries
  entries : ∀ key decoder, process.cache.Holds key decoder → ∃ asset raw,
    StoredIn trace asset raw decoder ∧ MadeFrom engine compile seen key decoder asset raw

/-- What a step serves was stored before, for the same project and from the same bytes. -/
def ServedRightly (trace : List (LoadLabel Root CallId × LoadEvent Decoder)) (event : LoadEvent Decoder) :
    Prop :=
  ∀ asset raw decoder, event = .served asset raw decoder →
    ∃ source, StoredIn trace source raw decoder ∧ source.owner = asset.owner

theorem StoredIn.later {asset : DbcAsset} {raw : Bytes} {decoder : Decoder}
    {more : List (LoadLabel Root CallId × LoadEvent Decoder)} (stored : StoredIn trace asset raw decoder) :
    StoredIn (trace ++ more) asset raw decoder := by
  obtain ⟨label, member⟩ := stored
  exact ⟨label, List.mem_append_left _ member⟩

theorem Twinned.founded (twinned : Twinned engine compile seen maxEntries trace process plain) :
    Founded engine compile seen process.cache := by
  intro key decoder held
  obtain ⟨asset, raw, _, made⟩ := twinned.entries key decoder held
  exact ⟨asset, raw, made⟩

theorem Twinned.served (twinned : Twinned engine compile seen maxEntries trace process plain)
    (distinct : seen.InjOn engine.sha256) {asset : DbcAsset} {raw : Bytes} {decoder : Decoder}
    (verified : Verified engine seen asset raw)
    (held : process.cache.Holds (DecoderKey.of asset) decoder) :
    ∃ source, StoredIn trace source raw decoder ∧ source.owner = asset.owner := by
  obtain ⟨source, content, stored, made⟩ := twinned.entries _ _ held
  obtain ⟨rfl, owner, _⟩ := made.serves distinct verified
  exact ⟨source, stored, owner⟩

theorem Twinned.later (twinned : Twinned engine compile seen maxEntries trace process plain)
    {key : DecoderKey} {decoder : Decoder} (held : process.cache.Holds key decoder)
    (step : LoadLabel Root CallId × LoadEvent Decoder) :
    ∃ asset raw, StoredIn (trace ++ [step]) asset raw decoder ∧
      MadeFrom engine compile seen key decoder asset raw := by
  obtain ⟨asset, raw, stored, made⟩ := twinned.entries key decoder held
  exact ⟨asset, raw, stored.later, made⟩

section Updates

variable [DecidableEq Root] [DecidableEq CallId]

theorem within_update {root : Root} {world : ProjectWorld} (within : ∀ root, (worlds root).Within seen)
    (inside : world.Within seen) (other : Root) :
    (Function.update worlds root world other).Within seen := by
  by_cases same : other = root
  · subst same
    rw [Function.update_self]
    exact inside
  · rw [Function.update_of_ne same]
    exact within other

omit [DecidableEq Root] in
theorem coupled_update {cached : CallId → Option (Root × LoadStage Database Decoder)}
    {uncached : CallId → Option (Root × DbcProgram Database Decoder)} {call : CallId}
    {stage : Option (Root × LoadStage Database Decoder)} {program : Option (Root × DbcProgram Database Decoder)}
    (calls : ∀ call, CallsCoupled engine compile seen (cached call) (uncached call))
    (both : CallsCoupled engine compile seen stage program) (other : CallId) :
    CallsCoupled engine compile seen (Function.update cached call stage other)
      (Function.update uncached call program other) := by
  by_cases same : other = call
  · subst same
    rw [Function.update_self, Function.update_self]
    exact both
  · rw [Function.update_of_ne same, Function.update_of_ne same]
    exact calls other

private theorem uncached_start {call : CallId} {root : Root} {assetId : Option Uuid}
    (absent : plain.calls call = none) :
    uncachedStep engine compile plain (.start call root assetId) = some (⟨plain.worlds,
      Function.update plain.calls call (some (root, loadUncached engine compile assetId))⟩, ()) := by
  simp only [uncachedStep, absent]

theorem uncached_advance {call : CallId} {root : Root} {choice : Choice}
    {program : DbcProgram Database Decoder} (present : plain.calls call = some (root, program)) :
    uncachedStep engine compile plain (.advance call choice) = some (⟨
      Function.update plain.worlds root (uncachedNext engine choice (plain.worlds root) program).2,
      Function.update plain.calls call
        (some (root, (uncachedNext engine choice (plain.worlds root) program).1))⟩, ()) := by
  simp only [uncachedStep, present]

theorem Twinned.start (twinned : Twinned engine compile seen maxEntries trace process plain)
    {call : CallId} {root : Root} {assetId : Option Uuid} {event : LoadEvent Decoder}
    (moved : loadStep engine compile process (.start call root assetId) = some (after, event)) :
    ServedRightly trace event ∧ ∃ plain', uncachedStep engine compile plain (.start call root assetId) =
      some (plain', ()) ∧
      Twinned engine compile seen maxEntries (trace ++ [(.start call root assetId, event)]) after plain' := by
  have coupled := twinned.calls call
  simp only [loadStep] at moved
  cases known : process.calls call with
  | some held => simp [known] at moved
  | none =>
    rw [known] at moved coupled
    cases moved
    cases absent : plain.calls call with
    | some held =>
      rw [absent] at coupled
      cases coupled
    | none =>
      have begun : CallsCoupled engine compile seen
          (some (root, .verifying (readVerifiedAsset engine assetId)))
          (some (root, loadUncached engine compile assetId)) :=
        .present (readVerifiedAsset_verifies assetId : Verifies _ _ _) (.same rfl)
      refine ⟨nofun, _, uncached_start absent, twinned.worlds, twinned.within, ?_, twinned.bound,
        fun _ _ held => twinned.later held _⟩
      exact coupled_update twinned.calls begun

theorem Twinned.advance (distinct : seen.InjOn engine.sha256)
    (twinned : Twinned engine compile seen maxEntries trace process plain)
    {call : CallId} {choice : Choice} {event : LoadEvent Decoder}
    (moved : loadStep engine compile process (.advance call choice) = some (after, event)) :
    ServedRightly trace event ∧ ∃ plain', uncachedStep engine compile plain (.advance call choice) =
      some (plain', ()) ∧
      Twinned engine compile seen maxEntries (trace ++ [(.advance call choice, event)]) after plain' := by
  have coupled := twinned.calls call
  simp only [loadStep] at moved
  cases known : process.calls call with
  | none => simp [known] at moved
  | some held =>
    obtain ⟨root, stage⟩ := held
    rw [known] at moved coupled
    cases moved
    cases twin : plain.calls call with
    | none =>
      rw [twin] at coupled
      cases coupled
    | some held =>
      rw [twin] at coupled
      cases coupled with
      | @present _ _ program sound coupled =>
        have progress : Progress engine compile seen (process.worlds root) process.cache
            (stage.next engine compile choice (process.worlds root) process.cache) :=
          next_progress sound (twinned.within root)
        obtain ⟨kept, files, bound, added, served⟩ := progress
        have both : (uncachedNext engine choice (process.worlds root) program).2 =
            (stage.next engine compile choice (process.worlds root) process.cache).world ∧ _ :=
          next_coupled distinct twinned.founded sound coupled
        obtain ⟨world, together⟩ := both
        refine ⟨?_, _, uncached_advance twin, ?_, ?_, ?_, ?_, ?_⟩
        · intro asset raw decoder same
          obtain ⟨verified, held⟩ := served asset raw decoder same
          exact twinned.served distinct verified held
        · simp only
          rw [twinned.worlds, world]
        · exact within_update twinned.within ((twinned.within root).of_files files)
        · apply coupled_update twinned.calls
          rw [twinned.worlds]
          exact .present kept together
        · exact bound.trans twinned.bound
        · intro key decoder held
          rcases added key decoder held with before | ⟨asset, raw, stored, made⟩
          · exact twinned.later before _
          · exact ⟨asset, raw, ⟨_, List.mem_append_right _ (List.mem_singleton.mpr (by rw [stored]))⟩, made⟩

theorem Twinned.step (distinct : seen.InjOn engine.sha256)
    (twinned : Twinned engine compile seen maxEntries trace process plain)
    {label : LoadLabel Root CallId} {event : LoadEvent Decoder} (admitted : label.Within seen)
    (moved : loadStep engine compile process label = some (after, event)) :
    ServedRightly trace event ∧ ∃ plain', uncachedStep engine compile plain label = some (plain', ()) ∧
      Twinned engine compile seen maxEntries (trace ++ [(label, event)]) after plain' := by
  cases label with
  | alter root world =>
    cases moved
    exact ⟨nofun, _, rfl, congrArg (Function.update · root world) twinned.worlds,
      within_update twinned.within admitted, twinned.calls, twinned.bound,
      fun _ _ held => twinned.later held _⟩
  | start call root assetId => exact twinned.start moved
  | advance call choice => exact twinned.advance distinct moved

end Updates

section Progress

/-- How many steps of its own a call takes at most. -/
def LoadStage.Remaining (steps : Nat) : LoadStage Database Decoder → Prop
  | .verifying program => ∃ effects, program.AtMost effects ∧ effects + 6 ≤ steps
  | .consulting _ _ => 5 ≤ steps
  | .building _ _ program => ∃ effects, program.AtMost effects ∧ effects + 2 ≤ steps
  | .storing _ _ _ => 1 ≤ steps
  | .finished _ => True

def loadSteps : Nat := 16

variable {world : ProjectWorld} {cache : DecoderCache Decoder} {choice : Choice}
variable {stage : LoadStage Database Decoder} {steps : Nat}

theorem next_remaining (remaining : stage.Remaining steps) :
    (stage.next engine compile choice world cache).stage.Remaining (steps - 1) := by
  cases stage with
  | verifying program =>
    obtain ⟨effects, brief, enough⟩ := remaining
    cases program with
    | perform request rest =>
      cases effects with
      | zero => exact brief.elim
      | succ effects =>
        refine ⟨effects, brief _, ?_⟩
        omega
    | finish result =>
      cases result with
      | error error => trivial
      | ok verified =>
        change 5 ≤ steps - 1
        omega
  | consulting asset raw =>
    have enough : 5 ≤ steps := remaining
    simp only [LoadStage.next]
    cases cache.get (DecoderKey.of asset) with
    | mk found touched =>
      cases found with
      | some decoder => trivial
      | none =>
        refine ⟨2, buildDecoder_atMost asset raw, ?_⟩
        omega
  | building asset raw program =>
    obtain ⟨effects, brief, enough⟩ := remaining
    cases program with
    | perform request rest =>
      cases effects with
      | zero => exact brief.elim
      | succ effects =>
        refine ⟨effects, brief _, ?_⟩
        omega
    | finish result =>
      cases result with
      | error error => trivial
      | ok decoder =>
        change 1 ≤ steps - 1
        omega
  | storing asset raw decoder => trivial
  | finished result => trivial

theorem Remaining.finished (remaining : stage.Remaining 0) : ∃ result, stage = .finished result := by
  cases stage with
  | verifying program =>
    obtain ⟨effects, _, none⟩ := remaining
    omega
  | consulting asset raw =>
    have none : 5 ≤ 0 := remaining
    omega
  | building asset raw program =>
    obtain ⟨effects, _, none⟩ := remaining
    omega
  | storing asset raw decoder =>
    have none : 1 ≤ 0 := remaining
    omega
  | finished result => exact ⟨result, rfl⟩

variable [DecidableEq Root] [DecidableEq CallId]

/-- The steps that a run gave to one call. -/
def advances (call : CallId) (trace : List (LoadLabel Root CallId × LoadEvent Decoder)) : Nat :=
  (trace.map Prod.fst).countP fun
    | .advance advanced _ => decide (advanced = call)
    | _ => false

/-- A call needs what is left of its steps. -/
def Paced (trace : List (LoadLabel Root CallId × LoadEvent Decoder))
    (process : LoadProcess Database Decoder Root CallId) : Prop :=
  ∀ call, match process.calls call with
    | none => advances call trace = 0
    | some (_, stage) => stage.Remaining (loadSteps - advances call trace)

variable {process after : LoadProcess Database Decoder Root CallId}
variable {trace : List (LoadLabel Root CallId × LoadEvent Decoder)} {event : LoadEvent Decoder}

omit [DecidableEq Root] in
theorem advances_other {call advanced : CallId} (different : call ≠ advanced) :
    advances call (trace ++ [(.advance advanced choice, event)]) = advances call trace := by
  simp [advances, different.symm]

omit [DecidableEq Root] in
theorem advances_self {call : CallId} :
    advances call (trace ++ [(.advance call choice, event)]) = advances call trace + 1 := by
  simp [advances]

theorem Paced.step {label : LoadLabel Root CallId} (paced : Paced trace process)
    (moved : loadStep engine compile process label = some (after, event)) :
    Paced (trace ++ [(label, event)]) after := by
  intro call
  have known := paced call
  cases label with
  | alter root world =>
    have same : advances call (trace ++ [(.alter root world, event)]) = advances call trace := by
      simp [advances]
    cases moved
    rw [same]
    exact known
  | start started root assetId =>
    have same : advances call (trace ++ [(.start started root assetId, event)]) = advances call trace := by
      simp [advances]
    rw [same]
    simp only [loadStep] at moved
    cases absent : process.calls started with
    | some held => simp [absent] at moved
    | none =>
      rw [absent] at moved
      cases moved
      by_cases own : call = started
      · subst own
        rw [absent] at known
        have none : advances call trace = 0 := known
        simp only [Function.update_self, none]
        exact ⟨10, readVerifiedAsset_atMost assetId, Nat.le_refl _⟩
      · simp only [Function.update_of_ne own]
        exact known
  | advance advanced choice =>
    simp only [loadStep] at moved
    cases present : process.calls advanced with
    | none => simp [present] at moved
    | some held =>
      obtain ⟨root, stage⟩ := held
      rw [present] at moved
      cases moved
      by_cases own : call = advanced
      · subst own
        rw [present] at known
        have remaining : stage.Remaining (loadSteps - advances call trace) := known
        simp only [Function.update_self, advances_self]
        exact next_remaining remaining
      · simp only [Function.update_of_ne own, advances_other own]
        exact known

end Progress

section Transparency

variable [DecidableEq Root] [DecidableEq CallId]

omit [DecidableEq Root] [DecidableEq CallId] in
theorem initial_twinned (within : ∀ root, (worlds root).Within seen) :
    Twinned engine compile seen maxEntries ([] : List (LoadLabel Root CallId × LoadEvent Decoder))
      (.initial worlds maxEntries positive) (.initial worlds) :=
  ⟨rfl, within, fun _ => .absent, rfl, fun _ _ held => absurd held List.not_mem_nil⟩

/-- Along every run there is a run of the process without a cache under the same labels. -/
theorem run_twinned (distinct : seen.InjOn engine.sha256) (within : ∀ root, (worlds root).Within seen)
    (path : Path (loadStep engine compile) (fun _ label => label.Within seen)
      (.initial worlds maxEntries positive) trace after) :
    ∃ taken plain, Path (uncachedStep engine compile) anyLabel (.initial worlds) taken plain ∧
      taken.map Prod.fst = trace.map Prod.fst ∧
      Twinned engine compile seen maxEntries trace after plain := by
  induction path with
  | refl => exact ⟨[], .initial worlds, .refl, rfl, initial_twinned within⟩
  | @snoc trace middle label target event prior admitted moved ih =>
    obtain ⟨taken, plain, walked, labels, twinned⟩ := ih
    obtain ⟨_, next, stepped, kept⟩ := twinned.step distinct admitted moved
    refine ⟨taken ++ [(label, ())], next, .snoc walked trivial stepped, ?_, kept⟩
    rw [List.map_append, List.map_append, labels]
    rfl

/-- Every hit of a run hands out a decoder that was stored for the same project, from the very
bytes that the caller has just verified. -/
theorem run_serves (distinct : seen.InjOn engine.sha256) (within : ∀ root, (worlds root).Within seen)
    (path : Path (loadStep engine compile) (fun _ label => label.Within seen)
      (.initial worlds maxEntries positive) trace after)
    {front back : List (LoadLabel Root CallId × LoadEvent Decoder)} {label : LoadLabel Root CallId}
    {event : LoadEvent Decoder} (split : trace = front ++ (label, event) :: back) :
    ServedRightly front event := by
  subst split
  obtain ⟨before, next, begun, admitted, moved, _⟩ := path.at_label
  obtain ⟨_, plain, _, _, twinned⟩ := run_twinned distinct within begun
  exact (twinned.step distinct admitted moved).1

theorem run_paced {allowed : LoadProcess Database Decoder Root CallId → LoadLabel Root CallId → Prop}
    (path : Path (loadStep engine compile) allowed (.initial worlds maxEntries positive) trace after) :
    Paced trace after :=
  path.preserves_trace Paced (fun _ => rfl) fun _ _ _ _ _ _ paced _ moved => paced.step moved

/-- What a run with the cache has to do with the run without it under the same labels. A call
is over with a result only where the call without a cache has nothing left to do but to compute
that result, and the other way round; enough steps of its own end a call; the cache stays within
its bound, and what it serves was stored for the same project and from the same bytes. -/
structure Transparent (engine : Engine Database) (compile : Database → Except PyException Decoder)
    (worlds : Root → ProjectWorld) (maxEntries : Nat)
    (trace : List (LoadLabel Root CallId × LoadEvent Decoder))
    (after : LoadProcess Database Decoder Root CallId) : Prop where
  uncached : ∃ taken plain, Path (uncachedStep engine compile) anyLabel (.initial worlds) taken plain ∧
    taken.map Prod.fst = trace.map Prod.fst ∧ plain.worlds = after.worlds ∧
    (∀ call root result, after.calls call = some (root, .finished result) →
      ∃ rest, plain.calls call = some (root, rest) ∧ evaluate engine rest = some result) ∧
    ∀ call root result, plain.calls call = some (root, .finish result) → ∃ stage,
      after.calls call = some (root, stage) ∧
        evaluate engine (stage.uncached engine compile) = some result
  finishes : ∀ call root stage, after.calls call = some (root, stage) →
    loadSteps ≤ advances call trace → ∃ result, stage = .finished result
  bounded : after.cache.entries.size ≤ maxEntries
  isolated : ∀ front label event back, trace = front ++ (label, event) :: back → ServedRightly front event

/-- Whatever the loads and the changes of the projects, in whatever order. -/
theorem cache_transparent (distinct : seen.InjOn engine.sha256)
    (within : ∀ root, (worlds root).Within seen)
    (path : Path (loadStep engine compile) (fun _ label => label.Within seen)
      (.initial worlds maxEntries positive) trace after) :
    Transparent engine compile worlds maxEntries trace after := by
  obtain ⟨taken, plain, walked, labels, twinned⟩ := run_twinned distinct within path
  refine ⟨⟨taken, plain, walked, labels, twinned.worlds, ?_, ?_⟩, ?_, ?_, ?_⟩
  · intro call root result known
    have both := twinned.calls call
    rw [known] at both
    generalize plain.calls call = twin at both
    cases both with
    | @present _ _ program sound coupled =>
      cases coupled with
      | same equal => exact ⟨program, rfl, equal ▸ rfl⟩
      | due value owed computes =>
        cases owed
        exact ⟨program, rfl, computes⟩
  · intro call root result known
    have both := twinned.calls call
    rw [known] at both
    generalize after.calls call = twin at both
    cases both with
    | @present _ stage _ sound coupled =>
      cases coupled with
      | same equal => exact ⟨stage, rfl, equal ▸ rfl⟩
      | due value owed computes =>
        cases computes
        exact ⟨stage, rfl, owed⟩
  · intro call root stage known enough
    have paced := run_paced path call
    rw [known] at paced
    have past : loadSteps - advances call trace = 0 := Nat.sub_eq_zero_of_le enough
    have remaining : stage.Remaining (loadSteps - advances call trace) := paced
    rw [past] at remaining
    exact Remaining.finished remaining
  · exact after.cache.bounded.trans twinned.bound.le
  · exact fun front label event back split => run_serves distinct within path split

end Transparency

end Runs

section Sample

/-- The registry row of the sample document. -/
def sampleRow : AssetRow where
  assetId := sampleChoice.uuid
  projectId := some ⟨"2f1c3d4e-5a6b-4c7d-8e9f-0a1b2c3d4e5f", sampleProject_uuid⟩
  sourceName := text "vehicle.dbc"
  relativePath := assetRelativePath sampleChoice.uuid
  sha256 := sampleEngine.sha256 sampleBytes
  sizeBytes := sampleBytes.length
  encoding := text "utf-8-sig"
  importedAt := some 0

/-- A project that holds the sample document. -/
def registeredProject : ProjectWorld :=
  { sampleProject.withFile (assetName sampleChoice.uuid) (some (.regular sampleBytes)) with
    rows := [sampleRow] }

/-- The same project once its file has been overwritten. -/
def tamperedProject : ProjectWorld :=
  registeredProject.withFile (assetName sampleChoice.uuid) (some (.regular [0]))

def load (call : Nat) : List (LoadLabel Unit Nat) :=
  .start call () (some sampleChoice.uuid) :: List.replicate loadSteps (.advance call calm)

/-- A load that builds, a load that is served, and a load after the file was overwritten. -/
def sampleLoads : List (LoadLabel Unit Nat) := load 0 ++ load 1 ++ .alter () tamperedProject :: load 2

/-- The errors of the three calls, of those that are over. -/
def loadsSeen (process : LoadProcess Text Text Unit Nat) : List (Option (Option PyException)) :=
  [0, 1, 2].map fun call => match process.calls call with
    | some (_, .finished (.ok _)) => some none
    | some (_, .finished (.error error)) => some (some error)
    | _ => none

def sampleProcess : LoadProcess Text Text Unit Nat :=
  .initial (fun _ => registeredProject) defaultMaxEntries (by decide)

private theorem registered_within : registeredProject.Within {sampleBytes, [0]} := by
  intro name content held
  simp only [registeredProject, ProjectWorld.withFile, Function.update_apply] at held
  split at held
  · cases held
    exact .inl rfl
  · cases held

private theorem tampered_within : tamperedProject.Within {sampleBytes, [0]} := by
  intro name content held
  simp only [tamperedProject, ProjectWorld.withFile, Function.update_apply] at held
  split at held
  · cases held
    exact .inr rfl
  · exact registered_within name content held

private theorem sample_distinct : Set.InjOn sampleEngine.sha256 {sampleBytes, [0]} := by
  rintro _ (rfl | rfl) _ (rfl | rfl) same
  · rfl
  · exact absurd same (by decide)
  · exact absurd same (by decide)
  · rfl

theorem cache_transparent_sample : ∃ trace after,
    Path (loadStep sampleEngine Except.ok) (fun _ label => label.Within {sampleBytes, [0]})
      sampleProcess trace after ∧
    loadsSeen after = [some none, some none, some (some (.dbc (integrityError
      "The registered DBC asset file no longer has its registered size.")))] ∧
    Transparent sampleEngine Except.ok (fun _ => registeredProject) defaultMaxEntries trace after := by
  have admitted : ∀ label ∈ sampleLoads, ∀ process : LoadProcess Text Text Unit Nat,
      label.Within {sampleBytes, [0]} := by
    intro label member process
    cases label with
    | alter root world =>
      have overwritten : world = tamperedProject := by
        simpa [sampleLoads, load] using member
      rw [overwritten]
      exact tampered_within
    | start call root assetId => trivial
    | advance call choice => trivial
  have evaluated : (follow (loadStep sampleEngine Except.ok) sampleProcess sampleLoads).map
      (fun reached => loadsSeen reached.1) = some [some none, some none, some (some (.dbc
        (integrityError "The registered DBC asset file no longer has its registered size.")))] := by
    decide +kernel
  obtain ⟨trace, after, path, seen⟩ := Path.observed sampleLoads loadsSeen _ admitted evaluated
  exact ⟨trace, after, path, seen, cache_transparent sample_distinct (fun _ => registered_within) path⟩

end Sample

end CanX.Dbc
