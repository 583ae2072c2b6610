import CanX.Project.Creation

/-! One project path over whole runs: at most one creation owns it, what a creation has returned stays as it is, and
what is opened is what a creation has made. -/

namespace CanX.Project

open Dbc Storage Transition

section Frames

variable {Caller : Type} [DecidableEq Caller] {creation : Creation} {caller : Caller}
variable {calls later : Caller → ProjectCall} {disk after : Disk Caller} {call next : CreateCall}
variable {place : ProjectOpenCall} {contents : Contents} {inode : Nat} {made prior : Prop}

omit [DecidableEq Caller] in
/-- A call that does not own the path knows nothing of it. -/
theorem idle_sound (idle : call.owns = false) : call.Sound creation caller disk := by
  cases call with
  | validating => trivial
  | makingRoot => trivial
  | raised error => trivial
  | _ => cases idle

omit [DecidableEq Caller] in
/-- The call that owns the path has made the directory. -/
theorem owns_folder (sound : call.Sound creation caller disk) (owns : call.owns = true) :
    ∃ folder, disk.folder = some folder := by
  have led := failed_sound sound
  cases call with
  | returned inode => exact ⟨_, folder_eq.mpr sound.1.1⟩
  | closing inode error => exact sound.1
  | scanning error => exact sound
  | removing remaining error => exact sound
  | removingRoot error => exact sound
  | makingDirectories remaining => exact led
  | connecting => exact led
  | enforcingKeys inode => exact led
  | validating => cases owns
  | makingRoot => cases owns
  | raised error => cases owns
  | _ => exact led.1

omit [DecidableEq Caller] in
theorem linked_folder (linked : Linked disk after) : ∃ folder, after.folder = some folder := by
  obtain ⟨folder, inode, -, -, root, -⟩ := linked.root
  exact ⟨_, folder_eq.mpr root⟩

omit [DecidableEq Caller] in
theorem linked_bare {directories : List String} (linked : Linked disk after) (bare : disk.Bare directories) :
    after.Bare directories := by
  obtain ⟨database, root, -⟩ := bare
  obtain ⟨folder, inode, before, missing, behind, inside, pristine⟩ := linked.root
  obtain rfl := Entry.folder.inj (Option.some.inj (before.symm.trans root))
  refine ⟨some inode, behind, fun other same => ?_⟩
  obtain rfl := Option.some.inj same
  rw [linked.stores]
  exact ⟨inside, pristine⟩

omit [DecidableEq Caller] in
theorem linked_laid {manifest : Option Text} (linked : Linked disk after) : ¬ disk.Laid inode manifest := by
  intro laid
  obtain ⟨folder, _, before, missing, _⟩ := linked.root
  obtain rfl := Entry.folder.inj (Option.some.inj (before.symm.trans laid.1))
  cases missing

omit [DecidableEq Caller] in
/-- An empty file that a call of `open` leaves behind does not disturb the creation. -/
theorem linked_sound (linked : Linked disk after) (sound : call.Sound creation caller disk) :
    call.Sound creation caller after := by
  cases call with
  | validating => trivial
  | makingRoot => trivial
  | raised error => trivial
  | makingDirectories remaining =>
    obtain ⟨made, chain, bare⟩ := sound
    exact ⟨made, chain, linked_bare linked bare⟩
  | connecting => exact linked_bare linked sound
  | enforcingKeys inode => exact absurd sound.1 (linked_laid linked)
  | beginning inode => exact absurd sound.1 (linked_laid linked)
  | creatingTables inode remaining =>
    obtain ⟨_, _, _, _, laid, _⟩ := sound
    exact absurd laid (linked_laid linked)
  | stamping inode =>
    obtain ⟨_, _, laid, _⟩ := sound
    exact absurd laid (linked_laid linked)
  | committing inode =>
    obtain ⟨_, _, laid, _⟩ := sound
    exact absurd laid (linked_laid linked)
  | verifyingMetadata inode => exact absurd sound.1 (linked_laid linked)
  | listingTables inode => exact absurd sound.1 (linked_laid linked)
  | checkingTables inode remaining => exact absurd sound.2.1 (linked_laid linked)
  | openingManifest inode => exact absurd sound.1 (linked_laid linked)
  | writingManifest inode remaining =>
    obtain ⟨_, _, laid, _⟩ := sound
    exact absurd laid (linked_laid linked)
  | returned inode => exact absurd sound.1 (linked_laid linked)
  | rollingBack inode => exact ⟨linked_folder linked, Nat.lt_of_lt_of_le sound.2 linked.longer⟩
  | closing inode error => exact ⟨linked_folder linked, Nat.lt_of_lt_of_le sound.2 linked.longer⟩
  | scanning error => exact linked_folder linked
  | removing remaining error => exact linked_folder linked
  | removingRoot error => exact linked_folder linked

/-- Every creation goes on as the creation it was. -/
def Continues (calls later : Caller → ProjectCall) : Prop :=
  ∀ caller creation place, calls caller = .creating creation place → ∃ next, later caller = .creating creation next

theorem continues_create (calling : calls caller = .creating creation call) :
    Continues calls (Function.update calls caller (.creating creation next)) := by
  intro other creation' place named
  by_cases same : other = caller
  · subst same
    obtain ⟨rfl, -⟩ := ProjectCall.creating.inj (calling.symm.trans named)
    exact ⟨next, Function.update_self ..⟩
  · exact ⟨place, (Function.update_of_ne same ..).trans named⟩

theorem continues_open {target : ProjectOpenCall} (calling : calls caller = .opening place) :
    Continues calls (Function.update calls caller (.opening target)) := by
  intro other creation' place' named
  have different : other ≠ caller := by
    rintro rfl
    cases calling.symm.trans named
  exact ⟨place', (Function.update_of_ne different ..).trans named⟩

omit [DecidableEq Caller] in
theorem Made.continues (continued : Continues calls later) (made : Made calls contents) : Made later contents := by
  obtain ⟨maker, creation, place, named, born⟩ := made
  obtain ⟨next, renamed⟩ := continued maker creation place named
  exact ⟨maker, creation, next, renamed, born⟩

omit [DecidableEq Caller] in
theorem Made.nonempty (made : Made calls contents) : contents ≠ Contents.empty := by
  obtain ⟨_, _, _, _, born⟩ := made
  exact born.nonempty

theorem OpenCall.Reads.imp {call : OpenCall} (reads : call.Reads prior) (implied : prior → made) :
    call.Reads made := by
  cases call with
  | recheckingMetadata => exact implied reads
  | listingTables => exact implied reads
  | checkingTables remaining => exact ⟨implied reads.1, reads.2⟩
  | opened => exact implied reads
  | connecting => trivial
  | readingVersion => trivial
  | closing error => trivial
  | raised error => trivial
  | _ => exact reads.elim

omit [DecidableEq Caller] in
/-- What a call of `open` knows stays so while made files stay made. -/
theorem ProjectOpenCall.Sound.imp (sound : place.Sound calls disk) (continued : Continues calls later)
    (kept : ∀ inode, Made calls (disk.store inode).committed → Made later (after.store inode).committed) :
    place.Sound later after := by
  cases place with
  | checkingDatabase manifest => exact sound
  | connecting manifest => exact sound
  | opening manifest inode call => exact ⟨sound.1, sound.2.imp (kept inode)⟩
  | readingMetadata manifest inode => exact ⟨sound.1, kept inode sound.2⟩
  | returned manifest metadata =>
    obtain ⟨maker, creation, place, named, same⟩ := sound
    obtain ⟨next, renamed⟩ := continued maker creation place named
    exact ⟨maker, creation, next, renamed, same⟩
  | _ => trivial

end Frames

namespace Lifecycle

variable {Caller : Type} [DecidableEq Caller] {state start next final middle : Lifecycle Caller}
variable {label : Caller × Answer} {output : Unit} {trace after : List ((Caller × Answer) × Unit)}

/-- The call owns the path. -/
def Owner (state : Lifecycle Caller) (caller : Caller) : Prop :=
  ∃ creation place, state.call caller = .creating creation place ∧ place.owns = true

structure Invariant (state : Lifecycle Caller) : Prop where
  exclusive : ∀ caller other, state.Owner caller → state.Owner other → caller = other
  creating : ∀ caller creation place, state.call caller = .creating creation place →
    place.Sound creation caller state.disk
  opening : ∀ caller place, state.call caller = .opening place → place.Sound state.call state.disk
  files : ∀ inode, (state.disk.store inode).committed = Contents.empty ∨
    Made state.call (state.disk.store inode).committed
  transactions : ∀ inode holder content, (state.disk.store inode).transaction = some (holder, content) →
    ∃ creation place, state.call holder = .creating creation place ∧ place.inode = some inode

omit [DecidableEq Caller] in
theorem start_store (inode : Nat) : (Disk.start : Disk Caller).store inode = ⟨Contents.empty, none⟩ := by
  rw [Disk.store, Disk.start, List.getD_nil]

omit [DecidableEq Caller] in
theorem Start.invariant (started : Start state) : Invariant state where
  exclusive caller other owner _ := by
    obtain ⟨creation, place, named, owns⟩ := owner
    rcases started.calls caller with ⟨_, same⟩ | same
    · obtain ⟨-, rfl⟩ := ProjectCall.creating.inj (named.symm.trans same)
      cases owns
    · cases named.symm.trans same
  creating caller creation place named := by
    rcases started.calls caller with ⟨_, same⟩ | same
    · obtain ⟨-, rfl⟩ := ProjectCall.creating.inj (named.symm.trans same)
      trivial
    · cases named.symm.trans same
  opening caller place named := by
    rcases started.calls caller with ⟨_, same⟩ | same
    · cases named.symm.trans same
    · obtain rfl := ProjectCall.opening.inj (named.symm.trans same)
      trivial
  files inode := by
    rw [started.nothing, start_store]
    exact .inl rfl
  transactions inode holder content held := by
    rw [started.nothing, start_store] at held
    cases held

/-- A step is an effect of a creation or of an opening call. -/
theorem step_cases (moved : state.step label = some (next, output)) :
    (∃ creation place target, state.call label.1 = .creating creation place ∧
      place.advance creation label.1 label.2 state.disk = some (next.disk, target) ∧
      next.call = Function.update state.call label.1 (.creating creation target)) ∨
    (∃ place target, state.call label.1 = .opening place ∧
      place.advance label.1 label.2.outcome state.disk = some (next.disk, target) ∧
      next.call = Function.update state.call label.1 (.opening target)) := by
  unfold step at moved
  split at moved
  · rename_i creation place named
    obtain ⟨⟨disk, target⟩, advanced, same⟩ := Option.map_eq_some_iff.mp moved
    obtain ⟨rfl, -⟩ := Prod.mk.inj same
    exact .inl ⟨creation, place, target, named, advanced, rfl⟩
  · rename_i place named
    obtain ⟨⟨disk, target⟩, advanced, same⟩ := Option.map_eq_some_iff.mp moved
    obtain ⟨rfl, -⟩ := Prod.mk.inj same
    exact .inr ⟨place, target, named, advanced, rfl⟩

theorem create_moved {creation : Creation} {place target : CreateCall} (inv : state.Invariant)
    (named : state.call label.1 = .creating creation place)
    (advanced : place.advance creation label.1 label.2 state.disk = some (next.disk, target)) :
    Moved creation label.1 state.disk place next.disk target := by
  refine advance_moved (inv.creating _ _ _ named) (fun inode content held => ?_) advanced
  obtain ⟨_, _, same, connected⟩ := inv.transactions inode label.1 content held
  obtain ⟨-, rfl⟩ := ProjectCall.creating.inj (named.symm.trans same)
  exact connected

theorem create_invariant {creation : Creation} {place target : CreateCall} (inv : state.Invariant)
    (named : state.call label.1 = .creating creation place)
    (advanced : place.advance creation label.1 label.2 state.disk = some (next.disk, target))
    (calls : next.call = Function.update state.call label.1 (.creating creation target)) : next.Invariant := by
  have moved := create_moved inv named advanced
  have here : next.call label.1 = .creating creation target := by rw [calls, Function.update_self]
  have away (other : Caller) (different : other ≠ label.1) : next.call other = state.call other := by
    rw [calls, Function.update_of_ne different]
  have continued : Continues state.call next.call := by
    rw [calls]
    exact continues_create named
  -- Where the call comes to own the path, there was nothing at it, so that no other call owned it.
  have alone (other : Caller) (different : other ≠ label.1) (taken : target.owns = true) : ¬ state.Owner other := by
    rintro ⟨creation', place', named', owns⟩
    rcases moved.taken taken with held | free
    · exact different (inv.exclusive other label.1 ⟨_, _, named', owns⟩ ⟨_, _, named, held⟩)
    · obtain ⟨folder, found⟩ := owns_folder (inv.creating _ _ _ named') owns
      rw [folder_eq, free] at found
      cases found
  have owner (other : Caller) (different : other ≠ label.1) : next.Owner other ↔ state.Owner other := by
    rw [Owner, Owner, away other different]
  refine ⟨?_, ?_, ?_, ?_, ?_⟩
  · intro caller other first second
    by_cases same : caller = label.1
    · by_cases same' : other = label.1
      · rw [same, same']
      · obtain ⟨_, _, named', owns⟩ := first
        subst same
        obtain ⟨-, rfl⟩ := ProjectCall.creating.inj (here.symm.trans named')
        exact absurd ((owner other same').mp second) (alone other same' owns)
    · by_cases same' : other = label.1
      · obtain ⟨_, _, named', owns⟩ := second
        subst same'
        obtain ⟨-, rfl⟩ := ProjectCall.creating.inj (here.symm.trans named')
        exact absurd ((owner caller same).mp first) (alone caller same owns)
      · exact inv.exclusive caller other ((owner caller same).mp first) ((owner other same').mp second)
  · intro other creation' place' named'
    by_cases same : other = label.1
    · subst same
      obtain ⟨rfl, rfl⟩ := ProjectCall.creating.inj (here.symm.trans named')
      exact moved.sound
    · rw [away other same] at named'
      -- Another creation knows nothing of the path, or this one neither owned it nor does.
      cases owns : place'.owns with
      | false => exact idle_sound owns
      | true =>
        have idle : target.owns = false := by
          cases taken : target.owns with
          | false => rfl
          | true => exact absurd ⟨_, _, named', owns⟩ (alone other same taken)
        have still : place.owns = false := by
          cases held : place.owns with
          | false => rfl
          | true => exact absurd (inv.exclusive other label.1 ⟨_, _, named', owns⟩ ⟨_, _, named, held⟩) same
        rw [moved.idle still idle]
        exact inv.creating _ _ _ named'
  · intro other place' named'
    have different : other ≠ label.1 := by
      rintro rfl
      cases here.symm.trans named'
    rw [away other different] at named'
    refine (inv.opening other place' named').imp continued fun inode made => ?_
    rcases moved.committed inode with same | ⟨empty, -⟩
    · rw [same]
      exact made.continues continued
    · exact absurd empty made.nonempty
  · intro inode
    rcases moved.committed inode with same | ⟨-, born⟩
    · rw [same]
      exact (inv.files inode).imp_right (·.continues continued)
    · exact .inr ⟨label.1, creation, target, here, born⟩
  · intro inode holder content held
    rcases moved.transactions inode holder content held with ⟨different, before⟩ | ⟨rfl, connected⟩
    · rw [away holder different]
      exact inv.transactions inode holder content before
    · exact ⟨creation, target, here, connected⟩

omit [DecidableEq Caller] in
theorem open_outside {place : ProjectOpenCall} (inv : state.Invariant) (named : state.call label.1 = .opening place)
    (inode : Nat) (content : Contents) : ¬ (state.disk.store inode).Holds label.1 content := by
  intro holds
  obtain ⟨_, _, same, _⟩ := inv.transactions inode label.1 content holds
  cases named.symm.trans same

private theorem open_invariant {place target : ProjectOpenCall} (inv : state.Invariant)
    (named : state.call label.1 = .opening place)
    (advanced : place.advance label.1 label.2.outcome state.disk = some (next.disk, target))
    (calls : next.call = Function.update state.call label.1 (.opening target)) : next.Invariant := by
  obtain ⟨sound, changed⟩ := open_moved (inv.opening _ _ named) inv.files (open_outside inv named) advanced
  have here : next.call label.1 = .opening target := by rw [calls, Function.update_self]
  have away (other : Caller) (different : other ≠ label.1) : next.call other = state.call other := by
    rw [calls, Function.update_of_ne different]
  have continued : Continues state.call next.call := by
    rw [calls]
    exact continues_open named
  have stores : next.disk.store = state.disk.store := by
    rcases changed with same | linked
    · rw [same]
    · exact linked.stores
  have creations (other : Caller) (creation : Creation) (place' : CreateCall)
      (named' : next.call other = .creating creation place') : state.call other = .creating creation place' := by
    have different : other ≠ label.1 := by
      rintro rfl
      cases here.symm.trans named'
    exact (away other different).symm.trans named'
  have kept (inode : Nat) (made : Made state.call (state.disk.store inode).committed) :
      Made next.call (next.disk.store inode).committed := by
    rw [stores]
    exact made.continues continued
  refine ⟨?_, ?_, ?_, ?_, ?_⟩
  · rintro caller other ⟨creation, place', named', owns⟩ ⟨creation', place'', named'', owns'⟩
    exact inv.exclusive caller other ⟨_, _, creations _ _ _ named', owns⟩ ⟨_, _, creations _ _ _ named'', owns'⟩
  · intro other creation place' named'
    have known := inv.creating _ _ _ (creations _ _ _ named')
    rcases changed with same | linked
    · rw [same]
      exact known
    · exact linked_sound linked known
  · intro other place' named'
    by_cases same : other = label.1
    · subst same
      obtain rfl := ProjectCall.opening.inj (here.symm.trans named')
      exact sound.imp continued fun inode made => by
        rw [stores] at made
        exact kept inode made
    · rw [away other same] at named'
      exact (inv.opening other place' named').imp continued kept
  · intro inode
    rw [stores]
    exact (inv.files inode).imp_right (·.continues continued)
  · intro inode holder content held
    rw [stores] at held
    obtain ⟨creation, place', named', connected⟩ := inv.transactions inode holder content held
    have different : holder ≠ label.1 := by
      rintro rfl
      cases named.symm.trans named'
    exact ⟨creation, place', (away holder different).trans named', connected⟩

theorem step_invariant (inv : state.Invariant) (moved : state.step label = some (next, output)) : next.Invariant := by
  rcases step_cases moved with ⟨creation, place, target, named, advanced, calls⟩ |
    ⟨place, target, named, advanced, calls⟩
  · exact create_invariant inv named advanced calls
  · exact open_invariant inv named advanced calls

theorem run_invariant (inv : state.Invariant) (run : Path step anyLabel state trace final) : final.Invariant :=
  run.preserves Invariant (fun _ _ _ _ held _ moved => step_invariant held moved) inv

/-- A call that has returned or raised makes no step. -/
theorem step_returned {creation : Creation} {caller : Caller} {inode : Nat}
    (named : state.call caller = .creating creation (.returned inode))
    (moved : state.step label = some (next, output)) : next.call caller = .creating creation (.returned inode) := by
  rcases step_cases moved with ⟨_, place, target, calling, advanced, calls⟩ | ⟨place, target, calling, -, calls⟩
  · rw [calls]
    by_cases same : caller = label.1
    · subst same
      obtain ⟨rfl, rfl⟩ := ProjectCall.creating.inj (calling.symm.trans named)
      cases advanced
    · rw [Function.update_of_ne same, named]
  · rw [calls]
    by_cases same : caller = label.1
    · subst same
      cases calling.symm.trans named
    · rw [Function.update_of_ne same, named]

theorem run_returned {creation : Creation} {caller : Caller} {inode : Nat}
    (named : state.call caller = .creating creation (.returned inode)) (run : Path step anyLabel state trace final) :
    final.call caller = .creating creation (.returned inode) :=
  run.preserves (fun state => state.call caller = .creating creation (.returned inode))
    (fun _ _ _ _ held _ moved => step_returned held moved) named

/-- However the effects of the calls interleave and whichever of them fail, one creation at most owns the path. Once a
creation has returned, the path is its directory, with the seven directories, its database and its manifest, for good.
What any call of `open` returns is the manifest and the row of one creation. -/
theorem lifecycle_safe (started : Start start) (run : Path step anyLabel start trace state) :
    (∀ caller other, state.Owner caller → state.Owner other → caller = other) ∧
      (∀ caller creation inode, state.call caller = .creating creation (.returned inode) →
        ∀ after final, Path step anyLabel state after final →
          final.call caller = .creating creation (.returned inode) ∧
            final.disk.Laid inode (some (manifestText creation.manifest)) ∧ final.disk.Settled creation inode) ∧
      (∀ caller manifest metadata, state.call caller = .opening (.returned manifest metadata) →
        ∃ maker creation place, state.call maker = .creating creation place ∧ manifest = creation.manifest ∧
          metadata = creation.metadata) := by
  have inv := run_invariant started.invariant run
  refine ⟨inv.exclusive, ?_, ?_⟩
  · intro caller creation inode named after final later
    have returned := run_returned named later
    exact ⟨returned, (run_invariant inv later).creating _ _ _ returned⟩
  · intro caller manifest metadata named
    exact inv.opening _ _ named

theorem sample_drawn : 1 < uuidBound := by decide +kernel

def sample : Creation := ⟨text "Demo", 1, sample_drawn, 0⟩

/-- The calls of the two callers. -/
def bothCalls (state : Lifecycle Bool) : ProjectCall × ProjectCall := (state.call true, state.call false)

/-- A project is created and then opened. -/
theorem lifecycle_safe_opened :
    ∃ trace state, Path step anyLabel (creatingAndOpening sample) trace state ∧
      state.call true = .creating sample (.returned 0) ∧
      state.call false = .opening (.returned sample.manifest sample.metadata) ∧
      ∀ after final, Path step anyLabel state after final →
        final.disk.Laid 0 (some (manifestText sample.manifest)) ∧ final.disk.Settled sample 0 := by
  have evaluated : (follow step (creatingAndOpening sample) (List.replicate 29 (true, ⟨.done, 1000⟩) ++
      List.replicate 15 (false, ⟨.done, 0⟩))).map (fun reached => bothCalls reached.1) =
        some (.creating sample (.returned 0), .opening (.returned sample.manifest sample.metadata)) := by
    decide +kernel
  obtain ⟨trace, state, run, seen⟩ := Path.observed _ bothCalls _ (fun _ _ _ => trivial) evaluated
  obtain ⟨created, opened⟩ := Prod.mk.inj seen
  obtain ⟨-, kept, -⟩ := lifecycle_safe (creatingAndOpening_start sample) run
  exact ⟨trace, state, run, created, opened, fun after final later => (kept _ _ _ created after final later).2⟩

end Lifecycle

end CanX.Project
