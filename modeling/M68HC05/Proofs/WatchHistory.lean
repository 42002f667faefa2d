import M68HC05.Proofs.Course
import M68HC05.Proofs.Traffic
import Mathlib.Data.List.Induction
import Mathlib.Order.Bounds.Defs

/-!
The history of a watch list. Watchpoints come and go, and they are named by position, which shifts
when one before them goes. So a watchpoint is followed from its addition on by where it stands
(`Standing.along`), which does not depend on the other watchpoints, and what it has counted are the
accesses made for it while it stood there enabled (`WatchEvent.points_iff`), never more than there
have been (`WatchEvent.hits_le_length`). The hit that waits to be taken is the first one since the
last was taken (`WatchEvent.hit_after`). It names its watchpoint by the position at the time of the
access, which is out of date once a watchpoint before it has been removed
(`WatchEvent.taken_hit_stands`).
-/

namespace M68HC05

/-! ## What watchpoints wait for -/

/-- What a watchpoint waits for: accesses of a kind to an address, possibly of one byte only. -/
structure WatchTarget where
  address : UInt16
  kind : WatchKind
  byte : Option UInt8

/-- An access is one of those that are waited for. -/
def WatchTarget.Meets (target : WatchTarget) (access : BusAccess) : Prop :=
  target.address = access.address ∧ (target.kind = .access ∨ target.kind = access.made) ∧
    ∀ byte ∈ target.byte, byte = access.byte

instance (target : WatchTarget) (access : BusAccess) : Decidable (target.Meets access) :=
  inferInstanceAs (Decidable (_ ∧ _ ∧ _))

namespace Watchpoint

/-- What the watchpoint waits for. -/
def target (point : Watchpoint) : WatchTarget :=
  ⟨point.address, point.kind, point.byte⟩

theorem triggers_iff (point : Watchpoint) (access : BusAccess) :
    point.triggers access.address access.made access.byte = true ↔
      point.enabled = true ∧ point.target.Meets access := by
  unfold triggers WatchKind.covers
  rw [Bool.and_eq_true, Bool.and_eq_true, Bool.and_eq_true, decide_eq_true_eq, Bool.or_eq_true,
    decide_eq_true_eq, decide_eq_true_eq, Option.all_eq_true, and_assoc, and_assoc]
  simp only [decide_eq_true_eq]
  rfl

end Watchpoint

namespace WatchList

variable {list : WatchList} {access : BusAccess} {previous : Option UInt8} {hit : WatchHit}

/-- An access triggers the watchpoint at this position. -/
def Fires (list : WatchList) (access : BusAccess) (index : Nat) : Prop :=
  ∃ point ∈ list.points[index]?, point.enabled = true ∧ point.target.Meets access

/-- The hit is one at the first watchpoint that the access triggers, and tells of the access. -/
structure Reports (list : WatchList) (access : BusAccess) (previous : Option UInt8)
    (hit : WatchHit) : Prop where
  first : IsLeast {index | list.Fires access index} hit.index
  address : hit.address = access.address
  made : hit.made = access.made
  byte : hit.byte = access.byte
  previous : hit.previous = previous

theorem fires_iff {index : Nat} (inside : index < list.points.length) :
    list.Fires access index ↔
      list.points[index].triggers access.address access.made access.byte = true := by
  unfold Fires
  rw [List.getElem?_eq_getElem inside, Watchpoint.triggers_iff]
  exact ⟨fun ⟨point, member, fires⟩ => Option.mem_some_iff.mp member ▸ fires,
    fun fires => ⟨_, rfl, fires⟩⟩

theorem lt_length_of_fires {index : Nat} (fires : list.Fires access index) :
    index < list.points.length := by
  obtain ⟨point, member, -⟩ := fires
  exact (List.getElem?_eq_some_iff.mp member).1

theorem firstHit?_eq_some_iff :
    list.firstHit? access.address access.made access.byte previous = some hit ↔
      list.Reports access previous hit := by
  unfold firstHit?
  rw [Option.map_eq_some_iff]
  constructor
  · rintro ⟨index, found, rfl⟩
    obtain ⟨inside, triggers, before⟩ := List.findIdx?_eq_some_iff_getElem.mp found
    refine ⟨⟨(fires_iff inside).mpr triggers, fun other fires => ?_⟩, rfl, rfl, rfl, rfl⟩
    refine Nat.le_of_not_lt fun below => before other below ?_
    exact (fires_iff (Nat.lt_trans below inside)).mp fires
  · rintro ⟨⟨fires, least⟩, address, made, byte, rfl⟩
    have inside := lt_length_of_fires fires
    refine ⟨hit.index, List.findIdx?_eq_some_iff_getElem.mpr ⟨inside, ?_, ?_⟩, ?_⟩
    · exact (fires_iff inside).mp fires
    · intro other below triggers
      exact Nat.not_le_of_lt below (least ((fires_iff (Nat.lt_trans below inside)).mpr triggers))
    · rw [← address, ← made, ← byte]

theorem firstHit?_eq_none_iff :
    list.firstHit? access.address access.made access.byte previous = none ↔
      ∀ index, ¬ list.Fires access index := by
  unfold firstHit?
  rw [Option.map_eq_none_iff, List.findIdx?_eq_none_iff]
  constructor
  · intro none index fires
    have triggers := (fires_iff (lt_length_of_fires fires)).mp fires
    exact Bool.false_ne_true ((none _ (List.getElem_mem _)).symm.trans triggers)
  · intro none point member
    obtain ⟨index, inside, rfl⟩ := List.getElem_of_mem member
    exact Bool.eq_false_iff.mpr fun triggers => none index ((fires_iff inside).mpr triggers)

end WatchList

/-! ## Events on a watch list -/

/-- What a host does with a watch list, and the accesses that a device reports to it. -/
inductive WatchEvent where
  | add (address : UInt16) (kind : WatchKind)
  | addByte (address : UInt16) (byte : UInt8)
  | setEnabled (index : Nat) (enabled : Bool)
  | remove (index : Nat)
  | observe (access : BusAccess) (previous : Option UInt8)
  | takeHit

namespace WatchEvent

/-- The list after an event. -/
def run : WatchEvent → WatchList → WatchList
  | add address kind, list => (list.add address kind).2
  | addByte address byte, list => (list.addByte address byte).2
  | setEnabled index enabled, list => list.setEnabled index enabled
  | remove index, list => (list.remove index).2
  | observe access previous, list =>
    (list.observe access.address access.made access.byte previous).next
  | takeHit, list => list.takeHit.2

/-- The list after some events. -/
def after (events : List WatchEvent) (list : WatchList) : WatchList :=
  events.foldl (fun list event => event.run list) list

theorem after_concat (events : List WatchEvent) (event : WatchEvent) (list : WatchList) :
    after (events ++ [event]) list = event.run (after events list) := by
  unfold after
  rw [List.foldl_append]
  rfl

theorem after_append (earlier later : List WatchEvent) (list : WatchList) :
    after (earlier ++ later) list = after later (after earlier list) :=
  List.foldl_append

/-- What the watchpoint waits for that an event adds. -/
def target? : WatchEvent → Option WatchTarget
  | add address kind => some ⟨busAddress address, kind, none⟩
  | addByte address byte => some ⟨busAddress address, .write, some byte⟩
  | _ => none

/-- An event is an access that is waited for. -/
def Shows (target : WatchTarget) : WatchEvent → Prop
  | observe access _ => target.Meets access
  | _ => False

instance (target : WatchTarget) : DecidablePred (Shows target)
  | observe access _ => inferInstanceAs (Decidable (target.Meets access))
  | add _ _ | addByte _ _ | setEnabled _ _ | remove _ | takeHit => isFalse id

end WatchEvent

/-! ## Following a watchpoint -/

/-- A place in a watch list at which a watchpoint stands, enabled or not. -/
structure Standing where
  place : Nat
  enabled : Bool

namespace Standing

variable {standing next : Standing} {event : WatchEvent} {later : List WatchEvent}

/-- Where the watchpoint stands after an event, if it is not removed by it. -/
def pass (standing : Standing) : WatchEvent → Option Standing
  | .remove index =>
    if index < standing.place then some { standing with place := standing.place - 1 }
    else if index = standing.place then none
    else some standing
  | .setEnabled index enabled =>
    some (if index = standing.place then { standing with enabled } else standing)
  | _ => some standing

/-- Where the watchpoint stands after some events, if it is not removed by one of them. -/
def along (later : List WatchEvent) (standing : Standing) : Option Standing :=
  later.foldlM pass standing

theorem along_singleton (event : WatchEvent) (standing : Standing) :
    along [event] standing = standing.pass event :=
  Option.bind_fun_some _

theorem along_append (early late : List WatchEvent) (standing : Standing) :
    along (early ++ late) standing = (along early standing).bind (along late) :=
  List.foldlM_append

theorem along_concat (later : List WatchEvent) (event : WatchEvent) (standing : Standing) :
    along (later ++ [event]) standing = (along later standing).bind (·.pass event) := by
  rw [along_append, funext (along_singleton event)]

/-- A removal before the watchpoint moves it up. -/
theorem pass_remove_before {index : Nat} (before : index < standing.place) :
    standing.pass (.remove index) = some { standing with place := standing.place - 1 } :=
  if_pos before

theorem pass_remove_self (standing : Standing) : standing.pass (.remove standing.place) = none :=
  (if_neg (Nat.lt_irrefl _)).trans (if_pos rfl)

/-- A removal behind the watchpoint leaves it at its place. -/
theorem pass_remove_behind {index : Nat} (behind : standing.place < index) :
    standing.pass (.remove index) = some standing :=
  (if_neg (Nat.lt_asymm behind)).trans (if_neg (Nat.ne_of_gt behind))

/-- Switching watchpoints moves none. -/
theorem exists_pass_setEnabled (index : Nat) (enabled : Bool) (standing : Standing) :
    ∃ switched, standing.pass (.setEnabled index enabled) = some ⟨standing.place, switched⟩ := by
  unfold pass
  dsimp only
  split
  · exact ⟨enabled, rfl⟩
  · exact ⟨standing.enabled, rfl⟩

/-- The event at this position is an access that the watchpoint waits for, and it stands enabled
there. -/
def counts (target : WatchTarget) (standing : Standing) (later : List WatchEvent) (n : Nat) :
    Bool :=
  later[n]?.any (·.Shows target) && (along (later.take n) standing).any (·.enabled)

/-- The number of accesses among some events that a watchpoint waits for while it is enabled. -/
def sightings (target : WatchTarget) (standing : Standing) (later : List WatchEvent) : Nat :=
  (List.range later.length).countP (counts target standing later)

/-- One more access is counted if the watchpoint waits for it and then stands enabled. -/
theorem sightings_concat {target : WatchTarget} {birth : Standing}
    (stands : along later birth = some standing) (event : WatchEvent) :
    sightings target birth (later ++ [event]) = sightings target birth later +
      if event.Shows target ∧ standing.enabled = true then 1 else 0 := by
  have before : ∀ n ∈ List.range later.length,
      counts target birth (later ++ [event]) n = true ↔ counts target birth later n = true := by
    intro n member
    have inside : n < later.length := List.mem_range.mp member
    unfold counts
    rw [List.getElem?_append_left inside, List.take_append_of_le_length (Nat.le_of_lt inside)]
  have last : counts target birth (later ++ [event]) later.length = true ↔
      event.Shows target ∧ standing.enabled = true := by
    unfold counts
    rw [List.getElem?_concat_length, List.take_left, stands, Option.any_some, Option.any_some,
      Bool.and_eq_true, decide_eq_true_eq]
  unfold sightings
  rw [List.length_append, List.length_singleton, List.range_succ, List.countP_append,
    List.countP_congr before, List.countP_singleton]
  congr 1
  exact if_congr last rfl rfl

end Standing

namespace WatchEvent

variable {event : WatchEvent} {events earlier later : List WatchEvent} {list : WatchList}
  {standing next : Standing} {point : Watchpoint} {target : WatchTarget} {index : Nat}

/-- An addition puts an enabled watchpoint without hits at the end. -/
theorem run_points_of_target (adds : event.target? = some target) :
    (event.run list).points =
      list.points ++ [⟨target.address, target.kind, target.byte, true, 0⟩] := by
  cases event with
  | add address kind => cases adds; rfl
  | addByte address byte => cases adds; rfl
  | _ => cases adds

/-- A watchpoint that an event leaves in the list stands where `Standing.pass` says, and is the same
but for being enabled and for the hit that the event may add. -/
theorem run_points_of_pass (there : list.points[standing.place]? = some point)
    (alike : point.enabled = standing.enabled) (passes : standing.pass event = some next) :
    (event.run list).points[next.place]? = some { point with
      enabled := next.enabled
      hits := point.hits +
        if event.Shows point.target ∧ standing.enabled = true then 1 else 0 } := by
  have inside : standing.place < list.points.length := (List.getElem?_eq_some_iff.mp there).1
  have whole : { point with enabled := standing.enabled, hits := point.hits + 0 } = point := by
    rw [← alike]
    rfl
  cases event with
  | add address kind =>
    cases passes
    change (list.points ++ _)[standing.place]? = _
    rw [List.getElem?_append_left inside, there, if_neg fun shows => shows.1, whole]
  | addByte address byte =>
    cases passes
    change (list.points ++ _)[standing.place]? = _
    rw [List.getElem?_append_left inside, there, if_neg fun shows => shows.1, whole]
  | setEnabled position enabled =>
    rw [if_neg fun shows => shows.1]
    cases passes
    change (list.points.modify position _)[_]? = _
    by_cases same : position = standing.place
    · rw [if_pos same, same, List.getElem?_modify_eq, there]
      rfl
    · rw [if_neg same, List.getElem?_modify_ne _ _ same, there, whole]
  | remove position =>
    rw [if_neg fun shows => shows.1]
    change (list.points.eraseIdx position)[next.place]? = _
    rcases Nat.lt_trichotomy position standing.place with before | rfl | behind
    · cases (Standing.pass_remove_before before).symm.trans passes
      dsimp only
      rw [List.getElem?_eraseIdx, if_neg (by omega), Nat.sub_add_cancel (by omega), there, whole]
    · cases standing.pass_remove_self.symm.trans passes
    · cases (Standing.pass_remove_behind behind).symm.trans passes
      rw [List.getElem?_eraseIdx, if_pos behind, there, whole]
  | observe access previous =>
    cases passes
    change (list.points.map _)[standing.place]? = _
    rw [List.getElem?_map, there, Option.map_some]
    unfold Watchpoint.count
    by_cases triggers : point.triggers access.address access.made access.byte = true
    · have shows := (point.triggers_iff access).mp triggers
      rw [if_pos triggers, if_pos ⟨shows.2, alike.symm.trans shows.1⟩, ← alike]
    · have hides : ¬ (Shows point.target (observe access previous) ∧ standing.enabled = true) :=
        fun shows => triggers ((point.triggers_iff access).mpr ⟨alike.trans shows.2, shows.1⟩)
      rw [if_neg triggers, if_neg hides, whole]
  | takeHit =>
    cases passes
    change list.points[standing.place]? = _
    rw [there, if_neg fun shows => shows.1, whole]

/-- A watchpoint in the list after an event has been added by it or was in the list before. -/
theorem exists_of_run_points (there : (event.run list).points[index]? = some point) :
    (∃ target, event.target? = some target ∧ index = list.points.length) ∨
      ∃ old place, list.points[place]? = some old ∧
        Standing.pass ⟨place, old.enabled⟩ event = some ⟨index, point.enabled⟩ := by
  have added (fresh : Watchpoint) (there : (list.points ++ [fresh])[index]? = some point) :
      index = list.points.length ∨ list.points[index]? = some point := by
    rw [List.getElem?_append] at there
    split at there
    · exact .inr there
    · have single := (List.getElem?_eq_some_iff.mp there).1
      rw [List.length_singleton] at single
      exact .inl (by omega)
  cases event with
  | add address kind =>
    refine (added _ there).imp (fun last => ⟨_, rfl, last⟩) fun old => ⟨point, index, old, rfl⟩
  | addByte address byte =>
    refine (added _ there).imp (fun last => ⟨_, rfl, last⟩) fun old => ⟨point, index, old, rfl⟩
  | setEnabled position enabled =>
    change (list.points.modify position _)[index]? = some point at there
    unfold Standing.pass
    dsimp only
    by_cases same : position = index
    · rw [same, List.getElem?_modify_eq, Option.map_eq_map, Option.map_eq_some_iff] at there
      obtain ⟨old, before, rfl⟩ := there
      refine .inr ⟨old, index, before, ?_⟩
      rw [if_pos same]
    · rw [List.getElem?_modify_ne _ _ same] at there
      refine .inr ⟨point, index, there, ?_⟩
      rw [if_neg same]
  | remove position =>
    change (list.points.eraseIdx position)[index]? = some point at there
    rw [List.getElem?_eraseIdx] at there
    split at there
    · rename_i behind
      exact .inr ⟨point, index, there, Standing.pass_remove_behind behind⟩
    · rename_i before
      have shifted : position < index + 1 := Nat.lt_succ_of_le (Nat.le_of_not_lt before)
      exact .inr ⟨point, index + 1, there, Standing.pass_remove_before shifted⟩
  | observe access previous =>
    change (list.points.map _)[index]? = some point at there
    rw [List.getElem?_map, Option.map_eq_some_iff] at there
    obtain ⟨old, before, rfl⟩ := there
    refine .inr ⟨old, index, before, ?_⟩
    unfold Watchpoint.count
    split
    · rfl
    · rfl
  | takeHit => exact .inr ⟨point, index, there, rfl⟩

/-- A watchpoint that some events leave in the list stands where `Standing.along` says, and has
counted what it has seen. -/
theorem after_points_of_along {place : Nat} (there : list.points[place]? = some point)
    (stands : Standing.along later ⟨place, point.enabled⟩ = some standing) :
    (after later list).points[standing.place]? = some { point with
      enabled := standing.enabled
      hits := point.hits + Standing.sightings point.target ⟨place, point.enabled⟩ later } := by
  induction later using List.reverseRecOn generalizing standing with
  | nil =>
    cases stands
    exact there
  | append_singleton later event ih =>
    rw [Standing.along_concat, Option.bind_eq_some_iff] at stands
    obtain ⟨between, before, passes⟩ := stands
    rw [after_concat, run_points_of_pass (ih before) rfl passes,
      Standing.sightings_concat before, ← Nat.add_assoc]
    rfl

/-! ## Where watchpoints come from -/

/-- The number of watchpoints in a list of `n` after an event. -/
def tally (n : Nat) : WatchEvent → Nat
  | add _ _ | addByte _ _ => n + 1
  | remove index => if index < n then n - 1 else n
  | setEnabled _ _ | observe _ _ | takeHit => n

/-- The number of watchpoints in a new list after some events. -/
def present (events : List WatchEvent) : Nat :=
  events.foldl tally 0

theorem length_run (event : WatchEvent) (list : WatchList) :
    (event.run list).points.length = event.tally list.points.length := by
  cases event with
  | add address kind => exact List.length_append
  | addByte address byte => exact List.length_append
  | setEnabled index enabled => exact List.length_modify ..
  | remove index => exact List.length_eraseIdx ..
  | observe access previous => exact List.length_map _
  | takeHit => rfl

theorem length_after (events : List WatchEvent) :
    (after events .empty).points.length = present events := by
  induction events using List.reverseRecOn with
  | nil => rfl
  | append_singleton events event ih =>
    unfold present at ih ⊢
    rw [after_concat, length_run, ih, List.foldl_append]
    rfl

/-- A watchpoint that has been added and not been removed since. -/
theorem points_of_along {addition : WatchEvent} (adds : addition.target? = some target)
    (stands : Standing.along later ⟨present earlier, true⟩ = some standing) :
    (after (earlier ++ addition :: later) .empty).points[standing.place]? =
      some ⟨target.address, target.kind, target.byte, standing.enabled,
        Standing.sightings target ⟨present earlier, true⟩ later⟩ := by
  have fresh : (addition.run (after earlier .empty)).points[present earlier]? =
      some ⟨target.address, target.kind, target.byte, true, 0⟩ := by
    rw [run_points_of_target adds, ← length_after, List.getElem?_concat_length]
  rw [List.append_cons, after_append, after_concat, after_points_of_along fresh stands,
    Nat.zero_add]
  rfl

/-- Each watchpoint in a list has been added and not been removed since. -/
theorem exists_addition (there : (after events .empty).points[index]? = some point) :
    ∃ earlier addition later target, events = earlier ++ addition :: later ∧
      addition.target? = some target ∧
      Standing.along later ⟨present earlier, true⟩ = some ⟨index, point.enabled⟩ := by
  induction events using List.reverseRecOn generalizing index point with
  | nil => cases there
  | append_singleton events event ih =>
    have here := there
    rw [after_concat] at here
    rcases exists_of_run_points here with ⟨target, adds, last⟩ | ⟨old, place, before, passes⟩
    · refine ⟨events, event, [], target, rfl, adds, ?_⟩
      rw [length_after] at last
      subst last
      have stands : Standing.along [] ⟨present events, true⟩ = some ⟨present events, true⟩ := rfl
      cases there.symm.trans (points_of_along adds stands)
      rfl
    · obtain ⟨earlier, addition, later, target, rfl, adds, stands⟩ := ih before
      refine ⟨earlier, addition, later ++ [event], target, by simp, adds, ?_⟩
      rw [Standing.along_concat, stands]
      exact passes

/-- The watchpoints in a list are those that have been added and not been removed since. Each of
them has counted the accesses that it waits for and that were made while it was enabled. -/
theorem points_iff (events : List WatchEvent) (index : Nat) (point : Watchpoint) :
    (after events .empty).points[index]? = some point ↔
      ∃ earlier addition later, events = earlier ++ addition :: later ∧
        addition.target? = some point.target ∧
        Standing.along later ⟨present earlier, true⟩ = some ⟨index, point.enabled⟩ ∧
        point.hits = Standing.sightings point.target ⟨present earlier, true⟩ later := by
  constructor
  · intro there
    obtain ⟨earlier, addition, later, target, rfl, adds, stands⟩ := exists_addition there
    have same := Option.some.inj (there.symm.trans (points_of_along adds stands))
    refine ⟨earlier, addition, later, rfl, ?_, stands, ?_⟩
    · rw [adds, same]
      rfl
    · rw [same]
      rfl
  · rintro ⟨earlier, addition, later, rfl, adds, stands, hits⟩
    rw [points_of_along adds stands, ← hits]
    rfl

/-- A count is at most the number of events, so a word of 64 bits holds it for the first 2 ^ 64 of
them. -/
theorem hits_le_length {point : Watchpoint} (there : point ∈ (after events .empty).points) :
    point.hits ≤ events.length := by
  obtain ⟨index, place⟩ := List.mem_iff_getElem?.mp there
  obtain ⟨earlier, addition, later, split, -, -, hits⟩ := (points_iff events index point).mp place
  have counted : Standing.sightings point.target ⟨present earlier, true⟩ later ≤ later.length :=
    Nat.le_trans List.countP_le_length (Nat.le_of_eq List.length_range)
  have within : later.length ≤ events.length := by
    rw [split, List.length_append, List.length_cons]
    omega
  rw [hits]
  exact Nat.le_trans counted within

/-! ## The hit that waits to be taken -/

/-- No access has triggered a watchpoint since a hit was last taken. -/
def Uncaught (events : List WatchEvent) : Prop :=
  ∀ earlier access previous later, events = earlier ++ observe access previous :: later →
    takeHit ∉ later → ∀ index, ¬ (after earlier .empty).Fires access index

/-- The hit reports the first access that has triggered a watchpoint since a hit was last taken. -/
def Caught (hit : WatchHit) (events : List WatchEvent) : Prop :=
  ∃ earlier access previous later, events = earlier ++ observe access previous :: later ∧
    Uncaught earlier ∧ takeHit ∉ later ∧ (after earlier .empty).Reports access previous hit

variable {hit : WatchHit}

theorem uncaught_concat :
    Uncaught (events ++ [event]) ↔ event = takeHit ∨
      Uncaught events ∧ ∀ access previous, event = observe access previous →
        ∀ index, ¬ (after events .empty).Fires access index := by
  constructor
  · intro uncaught
    by_cases takes : event = takeHit
    · exact .inl takes
    refine .inr ⟨?_, ?_⟩
    · rintro earlier access previous later rfl untaken
      refine uncaught earlier access previous (later ++ [event]) (by simp) ?_
      exact List.not_mem_append untaken fun now => takes (List.mem_singleton.mp now).symm
    · rintro access previous rfl
      exact uncaught events access previous [] rfl List.not_mem_nil
  · rintro (rfl | ⟨before, now⟩) earlier access previous later split untaken
    · rcases concat_eq_split split with ⟨-, ⟨⟩, -⟩ | ⟨between, -, rfl⟩
      exact absurd (List.mem_append_right between List.mem_cons_self) untaken
    · rcases concat_eq_split split with ⟨rfl, observes, -⟩ | ⟨between, same, rfl⟩
      · exact now access previous observes
      · exact before earlier access previous between same fun taken =>
          untaken (List.mem_append_left _ taken)

theorem caught_concat :
    Caught hit (events ++ [event]) ↔ event ≠ takeHit ∧ (Caught hit events ∨
      ∃ access previous, event = observe access previous ∧ Uncaught events ∧
        (after events .empty).Reports access previous hit) := by
  constructor
  · rintro ⟨earlier, access, previous, later, split, uncaught, untaken, reports⟩
    rcases concat_eq_split split with ⟨rfl, rfl, -⟩ | ⟨between, same, rfl⟩
    · exact ⟨nofun, .inr ⟨access, previous, rfl, uncaught, reports⟩⟩
    · refine ⟨?_, .inl ⟨earlier, access, previous, between, same, uncaught, ?_, reports⟩⟩
      · rintro rfl
        exact untaken (List.mem_append_right between List.mem_cons_self)
      · exact fun taken => untaken (List.mem_append_left _ taken)
  · rintro ⟨stays, ⟨earlier, access, previous, later, rfl, uncaught, untaken, reports⟩ |
      ⟨access, previous, rfl, uncaught, reports⟩⟩
    · refine ⟨earlier, access, previous, later ++ [event], by simp, uncaught, ?_, reports⟩
      exact List.not_mem_append untaken fun now => stays (List.mem_singleton.mp now).symm
    · exact ⟨events, access, previous, [], rfl, uncaught, List.not_mem_nil, reports⟩

/-- A list that has no hit takes that of an access. -/
theorem hit_observe (list : WatchList) (access : BusAccess) (previous : Option UInt8) :
    ((observe access previous).run list).hit =
      list.hit.or (list.firstHit? access.address access.made access.byte previous) := by
  rcases list with ⟨points, hit⟩
  cases hit with
  | none => rfl
  | some hit => rfl

theorem run_hit_eq_some :
    (event.run list).hit = some hit ↔ event ≠ takeHit ∧ (list.hit = some hit ∨
      ∃ access previous, event = observe access previous ∧ list.hit = none ∧
        list.Reports access previous hit) := by
  have quiet (other : ∀ access previous, event ≠ observe access previous)
      (stays : event ≠ takeHit) :
      list.hit = some hit ↔ event ≠ takeHit ∧ (list.hit = some hit ∨
        ∃ access previous, event = observe access previous ∧ list.hit = none ∧
          list.Reports access previous hit) :=
    ⟨fun waits => ⟨stays, .inl waits⟩, fun ⟨_, waits⟩ =>
      waits.resolve_right fun ⟨access, previous, observes, _⟩ => other access previous observes⟩
  cases event with
  | observe access previous =>
    rw [hit_observe, Option.or_eq_some_iff, WatchList.firstHit?_eq_some_iff]
    constructor
    · rintro (waits | fresh)
      · exact ⟨nofun, .inl waits⟩
      · exact ⟨nofun, .inr ⟨access, previous, rfl, fresh⟩⟩
    · rintro ⟨-, waits | ⟨_, _, ⟨⟩, fresh⟩⟩
      · exact .inl waits
      · exact .inr fresh
  | takeHit => exact iff_of_false nofun fun waits => waits.1 rfl
  | _ => exact quiet nofun nofun

theorem run_hit_eq_none :
    (event.run list).hit = none ↔ event = takeHit ∨
      list.hit = none ∧ ∀ access previous, event = observe access previous →
        ∀ index, ¬ list.Fires access index := by
  cases event with
  | observe access previous =>
    rw [hit_observe, Option.or_eq_none_iff, WatchList.firstHit?_eq_none_iff]
    constructor
    · rintro ⟨waits, idle⟩
      refine .inr ⟨waits, ?_⟩
      rintro _ _ ⟨⟩
      exact idle
    · rintro (⟨⟨⟩⟩ | ⟨waits, idle⟩)
      exact ⟨waits, idle access previous rfl⟩
  | takeHit => exact iff_of_true rfl (.inl rfl)
  | _ => exact ⟨fun waits => .inr ⟨waits, nofun⟩, fun waits => (waits.resolve_left nofun).1⟩

/-- The hit of a list sums up its past. -/
theorem hit_after (events : List WatchEvent) :
    (∀ hit, (after events .empty).hit = some hit ↔ Caught hit events) ∧
      ((after events .empty).hit = none ↔ Uncaught events) := by
  induction events using List.reverseRecOn with
  | nil =>
    refine ⟨fun hit => iff_of_false nofun ?_, iff_of_true rfl ?_⟩
    · rintro ⟨earlier, access, previous, later, split, -⟩
      exact List.append_ne_nil_of_right_ne_nil earlier (List.cons_ne_nil _ later) split.symm
    · intro earlier access previous later split
      exact absurd split.symm
        (List.append_ne_nil_of_right_ne_nil earlier (List.cons_ne_nil _ later))
  | append_singleton events event ih =>
    obtain ⟨some, none⟩ := ih
    refine ⟨fun hit => ?_, ?_⟩
    · rw [after_concat, run_hit_eq_some, caught_concat, some hit, none]
    · rw [after_concat, run_hit_eq_none, uncaught_concat, none]

/-- A watch list accounts for its past exactly, whatever has been done with it since it was new.

* Its watchpoints are those that have been added and not been removed since, each at the position to
  which the removals before it have shifted it and enabled as it was last set. Each has counted one
  hit for every access since its addition that was made to its address while it was enabled, of its
  kind and of its byte if it waits for one. No count exceeds the number of events.
* The hit that waits to be taken is the first access since a hit was last taken that triggered a
  watchpoint, at the first position at which it triggered one; and there is none if there was no
  such access. -/
theorem accounts_for_past (events : List WatchEvent) :
    (∀ index point, (after events .empty).points[index]? = some point ↔
      ∃ earlier addition later, events = earlier ++ addition :: later ∧
        addition.target? = some point.target ∧
        Standing.along later ⟨present earlier, true⟩ = some ⟨index, point.enabled⟩ ∧
        point.hits = Standing.sightings point.target ⟨present earlier, true⟩ later) ∧
      (∀ point ∈ (after events .empty).points, point.hits ≤ events.length) ∧
      (∀ hit, (after events .empty).hit = some hit ↔ Caught hit events) ∧
      ((after events .empty).hit = none ↔ Uncaught events) :=
  ⟨points_iff events, fun _ there => hits_le_length there, hit_after events⟩

end WatchEvent

/-! ## What a hit names -/

/-- The watchpoint is one that the access of the hit may have triggered. -/
def Watchpoint.Explains (point : Watchpoint) (hit : WatchHit) : Prop :=
  point.address = hit.address ∧ point.kind.covers hit.made = true

/-- What triggered the hit was at its position. -/
theorem WatchList.Reports.exists_explains {list : WatchList} {access : BusAccess}
    {previous : Option UInt8} {hit : WatchHit} (reports : list.Reports access previous hit) :
    ∃ point ∈ list.points[hit.index]?, point.enabled = true ∧ point.Explains hit := by
  obtain ⟨point, there, enabled, meets⟩ := reports.first.1
  refine ⟨point, there, enabled, ?_, ?_⟩
  · rw [reports.address]
    exact meets.1
  · rw [reports.made, WatchKind.covers, Bool.or_eq_true, decide_eq_true_eq, decide_eq_true_eq]
    exact meets.2.1

/-- Removals behind a watchpoint leave it at its place. -/
theorem Standing.exists_along {later : List WatchEvent} (standing : Standing)
    (behind : ∀ index, .remove index ∈ later → standing.place < index) :
    ∃ enabled, along later standing = some ⟨standing.place, enabled⟩ := by
  induction later using List.reverseRecOn with
  | nil => exact ⟨standing.enabled, rfl⟩
  | append_singleton later event ih =>
    obtain ⟨enabled, stands⟩ := ih fun index member =>
      behind index (List.mem_append_left _ member)
    rw [along_concat, stands, Option.bind_some]
    cases event with
    | remove index =>
      have last := behind index (List.mem_append_right _ List.mem_cons_self)
      exact ⟨enabled, pass_remove_behind last⟩
    | setEnabled index switched => exact exists_pass_setEnabled index switched ⟨_, enabled⟩
    | _ => exact ⟨enabled, rfl⟩

namespace WatchEvent

variable {events : List WatchEvent} {hit : WatchHit}

/-- A hit that is taken tells of an access since which no hit has been taken, and names the
watchpoint that the access triggered by the position at which it stood then.

* If no watchpoint up to this position has been removed since, it is still there.
* If some have been, it has moved up with each removal before it, unless it was itself removed. -/
theorem taken_hit_stands (taken : (after events .empty).takeHit.1 = some hit) :
    ∃ earlier access previous later, events = earlier ++ observe access previous :: later ∧
      (after earlier .empty).hit = none ∧ takeHit ∉ later ∧
      (after earlier .empty).Reports access previous hit ∧
      (∃ point ∈ (after earlier .empty).points[hit.index]?, point.Explains hit) ∧
      ((∀ index, remove index ∈ later → hit.index < index) →
        ∃ point ∈ (after events .empty).points[hit.index]?, point.Explains hit) ∧
      ∀ standing, Standing.along later ⟨hit.index, true⟩ = some standing →
        ∃ point ∈ (after events .empty).points[standing.place]?, point.Explains hit := by
  obtain ⟨earlier, access, previous, later, split, uncaught, untaken, reports⟩ :=
    ((hit_after events).1 hit).mp taken
  obtain ⟨point, there, enabled, explains⟩ := reports.exists_explains
  have followed (standing : Standing)
      (stands : Standing.along later ⟨hit.index, true⟩ = some standing) :
      ∃ point ∈ (after events .empty).points[standing.place]?, point.Explains hit := by
    -- the access itself moves no watchpoint, so this one is followed from before it
    have still : Standing.along (observe access previous :: later) ⟨hit.index, point.enabled⟩ =
        some standing := by
      rw [enabled]
      exact stands
    rw [split, after_append]
    exact ⟨_, after_points_of_along there still, explains⟩
  refine ⟨earlier, access, previous, later, split, (hit_after earlier).2.mpr uncaught, untaken,
    reports, ⟨point, there, explains⟩, fun behind => ?_, followed⟩
  obtain ⟨switched, stands⟩ := Standing.exists_along ⟨hit.index, true⟩ behind
  exact followed _ stands

/-- A hit at the second of three watchpoints, of which the last is removed before it is taken. -/
theorem taken_hit_stands_before_removal :
    let events : List WatchEvent := [add 0x40 .access, add 0x50 .read, add 0x60 .write,
      observe ⟨0x50, .read, 7⟩ none, remove 2]
    let hit : WatchHit := ⟨1, 0x50, .read, 7, none⟩
    (after events .empty).takeHit.1 = some hit ∧
      ∃ point ∈ (after events .empty).points[hit.index]?, point.Explains hit := by
  intro events hit
  have taken : (after events .empty).takeHit.1 = some hit := by decide
  obtain ⟨earlier, access, previous, later, split, -, -, -, -, kept, -⟩ := taken_hit_stands taken
  refine ⟨taken, kept fun index member => ?_⟩
  have among : remove index ∈ events := by
    rw [split]
    exact List.mem_append_right _ (List.mem_cons_of_mem _ member)
  have last : index = 2 := by simpa [events] using among
  rw [last]
  exact Nat.lt_succ_self 1

/-- A hit names no watchpoint any more once one before its own has been removed. -/
theorem taken_hit_out_of_date :
    let list := after [add 0x40 .access, add 0x50 .access, observe ⟨0x50, .read, 7⟩ none, remove 0]
      .empty
    list.takeHit.1 = some ⟨1, 0x50, .read, 7, none⟩ ∧ list.points[1]? = none := by
  decide

end WatchEvent
end M68HC05
